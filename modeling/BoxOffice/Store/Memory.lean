import BoxOffice.FileTree
import BoxOffice.Store.Gateway

/-!
# The store in memory

1. `TicketQuery.select` picks the documents that a query is about: those its filter accepts, sorted by price
   where that is asked for, cut to the page.
2. `MemoryStore` holds raw documents in the order of insertion. A document that is no record is noticed only
   when a query selects it.
3. A store is filled from a seed, the bytes of a JSON array of documents.
-/

namespace BoxOffice

open BoxOffice.Json

/-! ## Selection -/

/-- What documents are sorted by: the price, or the greatest number of signed 64 bits where there is none. -/
def priceKey (d : Value) : Int :=
  match (d.get? "ticketPrice").bind Value.int64? with
  | some price => price.toInt
  | none => Int64.maxValue.toInt

/-- Documents with ascending price; documents of one price keep their order. -/
def sortByPrice (ds : List Value) : List Value :=
  ds.mergeSort fun a b => priceKey a ≤ priceKey b

namespace TicketQuery

/-- The documents that a query is about, before they are cut to a page. -/
def arrange (q : TicketQuery) (ds : List Value) : List Value :=
  let accepted := ds.filter q.filter.accepts
  if q.sortByPrice then BoxOffice.sortByPrice accepted else accepted

/-- The documents that a query is about. -/
def select (q : TicketQuery) (ds : List Value) : List Value :=
  match q.page with
  | some page => page.cut (q.arrange ds)
  | none => q.arrange ds

/-- A document as a record, for a query. -/
def record (q : TicketQuery) (d : Value) : StoreResult TicketRecord :=
  (TicketRecord.ofValue d).mapError fun e => .decode q.operation e.message

end TicketQuery

/-! ## The store -/

/-- The documents of a store in memory, in the order of insertion. -/
structure MemoryStore where
  documents : List Value

namespace MemoryStore

/-- The store without a document. -/
def empty : MemoryStore := ⟨[]⟩

/-- The store with one more document, of whatever shape. -/
def insertDocument (s : MemoryStore) (d : Value) : MemoryStore := ⟨s.documents ++ [d]⟩

/-- The store with one more record. -/
def insert (s : MemoryStore) (r : TicketRecord) : MemoryStore := s.insertDocument r.toValue.ordered

/-- The number of documents. -/
def size (s : MemoryStore) : Nat := s.documents.length

/-- The records that a query is about. The first document among them that is no record fails the lookup. -/
def findMany (s : MemoryStore) (q : TicketQuery) : StoreResult (Option (List TicketRecord)) := do
  let records ← (q.select s.documents).mapM q.record
  return some records

/-- The first record that a query is about. Other documents are not looked at. -/
def findOne (s : MemoryStore) (q : TicketQuery) : StoreResult (Option TicketRecord) :=
  match (q.select s.documents).head? with
  | some d => (q.record d).map some
  | none => .ok none

/-- The store in memory answers at once and is not changed by lookups. -/
def store : TicketStore MemoryStore where
  many s q := (s, .now (s.findMany q))
  one s q := (s, .now (s.findOne q))

end MemoryStore

/-! ## Seeds -/

/-- Why a store cannot be seeded: the file cannot be read, or it does not hold an array. -/
inductive SeedError where
  | unreadable (e : FileError)
  | format (message : String)
  deriving Repr, DecidableEq

/-- The wording of a seed error. -/
def SeedError.text : SeedError → String
  | .unreadable e => "cannot read seed file: " ++ e.message
  | .format message => "seed file must be a JSON array of ticket documents: " ++ message

namespace MemoryStore

/-- The store that holds the documents of a seed file, from what reading the file gave. -/
def ofSeed : Except FileError (List UInt8) → Except SeedError MemoryStore
  | .error e => .error (.unreadable e)
  | .ok bytes =>
    match Value.ofBytes bytes with
    | .error fault => .error (.format fault.message)
    | .ok (.array documents) => .ok ⟨documents⟩
    | .ok _ => .error (.format "top-level value is not an array")

/-- What is logged when a store was seeded. -/
def seeded (s : MemoryStore) : LogEvent :=
  .of .info "seeded in-memory ticket store" [("count", Text.intText s.size)]

end MemoryStore

end BoxOffice
