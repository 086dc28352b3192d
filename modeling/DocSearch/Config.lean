import DocSearch.Query.Language
import DocSearch.Search.Scorer
import DocSearch.Toml.Parser

/- User settings, read from a TOML document. -/
namespace DocSearch

structure Config where
  language : Language
  /-- Results of a search that names no limit. -/
  defaultLimit : Nat
  /-- Indexes kept in memory. -/
  cacheSize : Nat
  scorer : Scorer
  /-- The index that is loaded at the start. -/
  defaultIndex : Option String
deriving DecidableEq, Repr

inductive ConfigError
  /-- The document is malformed, or a setting is unknown or of the wrong type. -/
  | document
  | zeroCacheSize
deriving DecidableEq, Repr

def ConfigError.message : ConfigError → String
  | .document => "the settings are malformed"
  | .zeroCacheSize => "cache_size must be at least 1"

def expandTilde (home path : String) : String :=
  match path.toList with
  | ['~'] => home
  | '~' :: '/' :: rest =>
    if rest.head? = some '/' then String.ofList rest else home ++ "/" ++ String.ofList rest
  | _ => path

namespace Config

def default : Config where
  language := .english
  defaultLimit := 10
  cacheSize := 16
  scorer := .default
  defaultIndex := none

def natSetting? : Toml → Option Nat
  | .number n => if 0 ≤ n && n < 0x10000000000000000 then some n.toNat else none
  | _ => none

def intSetting? : Toml → Option Int
  | .number n => some n
  | _ => none

def isEmptySetting : Toml → Bool
  | .list items => items.isEmpty
  | .table _ members => members.isEmpty
  | _ => false

/-- A language by its name, which may also stand as the only key of a table. -/
def languageSetting? : Toml → Option Language
  | .text name => Language.ofName? name
  | .table _ [(name, value)] => if isEmptySetting value then Language.ofName? name else none
  | _ => none

def positionalWeights (scorer : Scorer) : List String → List Toml → Option Scorer
  | name :: names, value :: values => do
    let weight ← intSetting? value
    let scorer ← scorer.set? name weight
    positionalWeights scorer names values
  | _, _ => some scorer

def scorerSetting? : Toml → Option Scorer
  | .table _ members => members.foldlM (fun scorer (name, value) => do
      let weight ← intSetting? value
      scorer.set? name weight) Scorer.default
  | .list values => positionalWeights .default (Scorer.default.weights.map Prod.fst) values
  | _ => none

def textSetting? : Toml → Option String
  | .text s => some s
  | _ => none

def set? (config : Config) (name : String) (value : Toml) : Option Config :=
  match name with
  | "language" => (languageSetting? value).map fun language => { config with language }
  | "default_limit" => (natSetting? value).map fun defaultLimit => { config with defaultLimit }
  | "cache_size" => (natSetting? value).map fun cacheSize => { config with cacheSize }
  | "scorer" => (scorerSetting? value).map fun scorer => { config with scorer }
  | "default_index" => (textSetting? value).map fun path => { config with defaultIndex := some path }
  | _ => none

def parse (home source : String) : Except ConfigError Config :=
  match (Toml.parse? source).bind (·.foldlM (fun config (name, value) => config.set? name value) default) with
  | none => .error .document
  | some config =>
    if config.cacheSize = 0 then .error .zeroCacheSize
    else .ok { config with defaultIndex := config.defaultIndex.map (expandTilde home) }

end Config
end DocSearch
