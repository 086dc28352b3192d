import DocSearch.Text.Basic

/- Configuration namespaces: names such as `file[section][sub]setting=value`, whole or in part. -/
namespace DocSearch

inductive Kind
  | conf
  | section
  | setting
  | value
deriving DecidableEq, Repr

namespace Kind

def all : List Kind := [.conf, .section, .setting, .value]

def name : Kind → String
  | .conf => "conf"
  | .section => "section"
  | .setting => "setting"
  | .value => "value"

def domain : String := "cylc:"

def objtype (kind : Kind) : String := domain ++ kind.name

def ofName? (name : String) : Option Kind :=
  let role := match Text.after? domain.toList name.toList with
    | some rest => String.ofList rest
    | none => name
  all.find? (·.name == role)

def unknownMessage (name : String) : String := s!"unknown namespace kind '{name}'"

end Kind

/-- A name with any of its components missing. -/
structure Namespace where
  conf : Option String
  sections : List String
  setting : Option String
  value : Option String
deriving DecidableEq, Repr

namespace Namespace

def empty : Namespace := ⟨none, [], none, none⟩

def has (ns : Namespace) : Kind → Bool
  | .conf => ns.conf.isSome
  | .section => !ns.sections.isEmpty
  | .setting => ns.setting.isSome
  | .value => ns.value.isSome

def populated (ns : Namespace) : List Kind := Kind.all.filter ns.has

def isEmpty (ns : Namespace) : Bool := ns.populated.isEmpty

def kind? (ns : Namespace) : Option Kind := ns.populated.getLast?

def present? (text : String) : Option String := if text.isEmpty then none else some text

def single (kind : Kind) (text : String) : Namespace :=
  match kind with
  | .conf => { empty with conf := present? text }
  | .section => { empty with sections := (present? text).toList }
  | .setting => { empty with setting := present? text }
  | .value => { empty with value := present? text }

/-- What the reference leaves open at the front comes from `base`; from its first component on
everything is its own. -/
def relativeTo (reference base : Namespace) : Namespace :=
  match reference.populated.head? with
  | none => base
  | some .conf => reference
  | some .section => { reference with conf := base.conf }
  | some .setting => { reference with conf := base.conf, sections := base.sections }
  | some .value => { base with value := reference.value }

def withoutValue (ns : Namespace) : Namespace := { ns with value := none }

/-- A bar stands only between a configuration file and a setting outside all sections. -/
def text (ns : Namespace) : String :=
  let bar := if ns.conf.isSome && ns.sections.isEmpty then "|" else ""
  ns.conf.getD "" ++ String.join (ns.sections.map fun name => "[" ++ name ++ "]") ++
    (ns.setting.map (bar ++ ·)).getD "" ++ (ns.value.map ("=" ++ ·)).getD ""

end Namespace
end DocSearch
