import TermSearch.Settings.Config
import TermSearch.Text.Case

/-! The settings of one search, after the caller's options are laid over the configuration. -/

namespace TermSearch

structure Rules where
  normalize : Bool
  wordBasedMatching : Bool
  orderByBestMatch : Bool
  ignoreSuffixes : List String
deriving DecidableEq

def Config.rules (c : Config) (o : Options) : Rules where
  normalize := o.normalize.getD c.normalize
  wordBasedMatching := o.wordBasedMatching.getD c.wordBasedMatching
  orderByBestMatch := o.orderByBestMatch.getD c.orderByBestMatch
  ignoreSuffixes := (o.ignoreSuffixes.getD c.ignoreSuffixes).map Text.lower

def Rules.ignores (r : Rules) (word : String) : Bool :=
  r.ignoreSuffixes.contains (Text.lower word)

end TermSearch
