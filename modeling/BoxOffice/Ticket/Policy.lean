import BoxOffice.Ticket.Record

/-!
# The availability policy

When the tickets of a country count as exhausted, whether its online ticket may be sold, and what a ticket
of another country costs as a suggestion.
-/

namespace BoxOffice

open BoxOffice.Text

/-- The rules of availability: how many types of ticket must be sold out for a country to be exhausted, and
the discount on suggestions in percent. -/
structure AvailabilityPolicy where
  soldOutThreshold : Nat
  discountPercent : Nat
  deriving Repr, DecidableEq

/-- Whether the offline tickets of a country are recorded, available or exhausted. -/
inductive OfflineStatus where
  | empty
  | available
  | exhausted
  deriving Repr, DecidableEq

/-- Whether the online ticket of a country may be sold. -/
inductive OnlineEligibility where
  | offlineAvailable
  | onlineEligible
  deriving Repr, DecidableEq

/-- Where the offline tickets of a country stand. -/
structure OfflineAssessment where
  total : Nat
  soldOut : Nat
  lastTag : Option Tag
  threshold : Nat
  deriving Repr, DecidableEq

namespace AvailabilityPolicy

/-- Four sold-out types exhaust a country; suggestions cost a fifth less. -/
def standard : AvailabilityPolicy := ⟨4, 20⟩

/-- The discount as it is shown beside a price. -/
def discountLabel (p : AvailabilityPolicy) : String := intText p.discountPercent ++ "%"

/-- The part of a price that remains after the discount, rounded down. -/
def discountedPrice (p : AvailabilityPolicy) (price : Int64) : Int64 :=
  Int64.ofInt ((price.toInt * (100 - p.discountPercent)) / 100)

/-- Assesses the offline tickets of a country, in the order of the store. -/
def assess (p : AvailabilityPolicy) (offline : List TicketRecord) : OfflineAssessment where
  total := offline.length
  soldOut := offline.countP TicketRecord.isSold
  lastTag := offline.getLast?.map TicketRecord.tag
  threshold := p.soldOutThreshold

end AvailabilityPolicy

namespace OfflineAssessment

/-- Exhausted from the threshold on; otherwise empty if there is no record. -/
def status (a : OfflineAssessment) : OfflineStatus :=
  if a.threshold ≤ a.soldOut then .exhausted
  else if a.total = 0 then .empty
  else .available

/-- The offline tickets of the country are exhausted. -/
def isExhausted (a : OfflineAssessment) : Bool := a.status == .exhausted

/-- The online ticket waits for the offline tickets as long as any are available. -/
def onlineEligibility (a : OfflineAssessment) : OnlineEligibility :=
  match a.status with
  | .available => .offlineAvailable
  | .empty | .exhausted => .onlineEligible

end OfflineAssessment

end BoxOffice
