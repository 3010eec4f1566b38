import TermSearch.Settings.Reader

/-! What a caller may set for a single search. -/

namespace TermSearch

inductive OptionKey where
  | normalize
  | wordBasedMatching
  | orderByBestMatch
  | ignoreSuffixes
deriving DecidableEq

namespace OptionKey

def all : List OptionKey :=
  [.normalize, .wordBasedMatching, .orderByBestMatch, .ignoreSuffixes]

def key : OptionKey → String
  | .normalize => "normalize"
  | .wordBasedMatching => "word_based_matching"
  | .orderByBestMatch => "order_by_best_match"
  | .ignoreSuffixes => "ignore_suffixes"

def ofKey? (s : String) : Option OptionKey :=
  all.find? (·.key == s)

end OptionKey

structure Options where
  normalize : Option Bool := none
  wordBasedMatching : Option Bool := none
  orderByBestMatch : Option Bool := none
  ignoreSuffixes : Option (List String) := none
deriving DecidableEq

namespace Options

def withNormalize (o : Options) (enabled : Bool) : Options :=
  { o with normalize := some enabled }

def withWordBasedMatching (o : Options) (enabled : Bool) : Options :=
  { o with wordBasedMatching := some enabled }

def withOrderByBestMatch (o : Options) (enabled : Bool) : Options :=
  { o with orderByBestMatch := some enabled }

def withIgnoreSuffixes (o : Options) (suffixes : List String) : Options :=
  { o with ignoreSuffixes := some suffixes }

def put (o : Options) (k : OptionKey) (v : Setting) : Except Refusal Options :=
  match k with
  | .normalize => do return { o with normalize := ← v.optional Setting.asBoolean }
  | .wordBasedMatching => do return { o with wordBasedMatching := ← v.optional Setting.asBoolean }
  | .orderByBestMatch => do return { o with orderByBestMatch := ← v.optional Setting.asBoolean }
  | .ignoreSuffixes => do return { o with ignoreSuffixes := ← v.optional Setting.asTexts }

def shape : Setting.Shape Options OptionKey where
  expected := .options
  order := OptionKey.all
  field s :=
    match OptionKey.ofKey? s with
    | some k => .ok (some k)
    | none => .error (.unknownOption s)
  put := put

def read (v : Setting) : Except Refusal Options :=
  v.readAs shape {}

end Options

end TermSearch
