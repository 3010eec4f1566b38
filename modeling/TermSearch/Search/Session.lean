import TermSearch.Search.Searcher

/-! The defaults that all searches of a process share. They are fixed by the first operation that
installs or reads them, and stay so. -/

namespace TermSearch

structure Session where
  fixed : Option Config := none

namespace Session

/-- What the defaults are or, before they are fixed, what reading them would make them. -/
def defaults (s : Session) : Config :=
  s.fixed.getD {}

def afterRead (s : Session) : Session :=
  ⟨some s.defaults⟩

/-- Answers whether the config has become the defaults, which it does where nothing has fixed them. -/
def install (s : Session) (config : Config) : Bool × Journal × Session :=
  match s.fixed with
  | none => (true, {}, ⟨some config⟩)
  | some _ => (false, { events := [.defaultsAlreadyFixed] }, s)

def readDefaults (s : Session) : Config × Session :=
  (s.defaults, s.afterRead)

def searcher (s : Session) : Searcher :=
  .ofConfig s.defaults

def defaultSearcher (s : Session) : Searcher × Session :=
  (s.searcher, s.afterRead)

/-- Reads the defaults, also where the query is then left alone or the search fails. -/
def search (s : Session) (names : Resolver) (q : Select) (term : Option String)
    (columns : List String) (options : Options) : Report Select × Session :=
  let (searcher, s) := s.defaultSearcher
  (searcher.search names q term columns options, s)

/-- Does nothing at all for a blank term, and else searches for the trimmed one. -/
def searchUnlessBlank (s : Session) (names : Resolver) (q : Select) (term : Option String)
    (columns : List String) (options : Options) : Report Select × Session :=
  let text := Text.trim (term.getD "")
  if text.isEmpty then (⟨.ok q, {}⟩, s) else s.search names q (some text) columns options

end Session

def Select.search (q : Select) (s : Session) (names : Resolver) (term : Option String)
    (columns : List String) (options : Options) : Report Select × Session :=
  s.search names q term columns options

end TermSearch
