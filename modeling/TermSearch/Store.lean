import TermSearch.Journal
import TermSearch.Statement.Select

/-! Databases by their connection address. The scheme of the address decides the dialect of every
query on the database. -/

namespace TermSearch

structure Store where
  dialect : Dialect
deriving DecidableEq

namespace Store

def scheme (address : String) : String :=
  String.ofList (address.toList.takeWhile (· != ':'))

def ofAddress (address : String) : Report Store :=
  match Dialect.ofAddress? address with
  | some dialect => ⟨.ok ⟨dialect⟩, { events := [.connected dialect] }⟩
  | none => ⟨.error (.configuration (.unknownScheme (scheme address))), {}⟩

def select (s : Store) (table : String) : Select :=
  .ofTable table s.dialect

end Store

end TermSearch
