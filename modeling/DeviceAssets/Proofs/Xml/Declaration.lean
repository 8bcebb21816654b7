import DeviceAssets.Proofs.Xml.Tag
import Mathlib.Logic.Function.Basic

/-!
# Declarations and the names they give

What prefixes stand for is a function, and a declaration changes it at one place. The
list of bindings that a reader keeps stands for this function, so a name that is written
with a prefix means the namespace of the last declaration of the prefix.

A namespace is what stands between the quotation marks of its declaration, octet by
octet.
-/

namespace DeviceAssets.Xml

/-- What prefixes stand for; names without a prefix have `none`. -/
abbrev Namespaces := Option Bytes → Option Bytes

def Namespaces.initial : Namespaces :=
  Function.update (Function.update (fun _ => none) (some xmlnsQualifier) (some xmlnsNamespace))
    (some xmlQualifier) (some xmlNamespace)

/-- A prefix stands for `uri`, or for nothing where that is empty. -/
def Namespaces.bind (spaces : Namespaces) (qualifier? : Option Bytes) (uri : Bytes) :
    Namespaces :=
  Function.update spaces qualifier? (if uri = [] then none else some uri)

inductive Assignment where
  /-- An attribute that declares nothing. -/
  | plain (key value : Bytes)
  /-- A declaration of a prefix, or of the namespace of names without one. -/
  | declaration (qualifier? : Option Bytes) (uri : Bytes)
  deriving DecidableEq, Repr

namespace Assignment

def toAttribute : Assignment → Attribute
  | .plain key value => ⟨key, value⟩
  | .declaration none uri => ⟨xmlnsQualifier, uri⟩
  | .declaration (some qualifier) uri => ⟨xmlnsQualifier ++ ':'.toUInt8 :: qualifier, uri⟩

def declared (spaces : Namespaces) : List Assignment → Namespaces
  | [] => spaces
  | .plain _ _ :: rest => declared spaces rest
  | .declaration qualifier? uri :: rest => declared (spaces.bind qualifier? uri) rest

end Assignment

/-- A name, or one part of a name, in which no colon stands. -/
structure IsPart (part : Bytes) : Prop extends IsName part where
  colonFree : ':'.toUInt8 ∉ part

/-- A prefix that a document may declare as it likes. -/
structure IsOrdinary (qualifier : Bytes) : Prop extends IsPart qualifier where
  ne_xml : qualifier ≠ xmlQualifier
  ne_xmlns : qualifier ≠ xmlnsQualifier

/-- An assignment that can be written, and that declares no more than it says. -/
def Assignment.Writable : Assignment → Prop
  | .plain key value =>
    IsName key ∧ 0x22 ∉ value ∧ key ≠ xmlnsQualifier ∧
      ¬ (xmlnsQualifier ++ [':'.toUInt8]) <+: key
  | .declaration none uri => 0x22 ∉ uri
  | .declaration (some qualifier) uri =>
    IsOrdinary qualifier ∧ 0x22 ∉ uri ∧ uri ≠ xmlNamespace ∧ uri ≠ xmlnsNamespace

def qualified (qualifier? : Option Bytes) (localName : Bytes) : Bytes :=
  match qualifier? with
  | none => localName
  | some qualifier => qualifier ++ ':'.toUInt8 :: localName

/-! ### Written declarations -/

theorem xmlnsQualifier_eq : xmlnsQualifier = [0x78, 0x6D, 0x6C, 0x6E, 0x73] := by decide

theorem isPart_xmlnsQualifier : IsPart xmlnsQualifier := by
  rw [xmlnsQualifier_eq]
  exact ⟨⟨by decide, by decide⟩, by decide⟩

theorem IsPart.isName_qualified {qualifier localName : Bytes} (hqualifier : IsPart qualifier)
    (hlocal : IsName localName) : IsName (qualified (some qualifier) localName) where
  nonempty := by simp [qualified]
  plain := by
    have hcolon : isMarkup ':'.toUInt8 = false := by decide
    rw [qualified, List.any_append, List.any_cons, hqualifier.plain, hcolon, hlocal.plain]
    rfl

theorem isName_qualified {qualifier? : Option Bytes}
    (hqualifier : ∀ qualifier ∈ qualifier?, IsPart qualifier) {localName : Bytes}
    (hlocal : IsPart localName) : IsName (qualified qualifier? localName) := by
  cases qualifier? with
  | none => exact hlocal.toIsName
  | some qualifier => exact (hqualifier qualifier rfl).isName_qualified hlocal.toIsName

theorem Assignment.Writable.toAttribute {assignment : Assignment} (h : assignment.Writable) :
    assignment.toAttribute.Writable := by
  match assignment, h with
  | .plain key value, ⟨hkey, hvalue, _, _⟩ => exact ⟨hkey, hvalue⟩
  | .declaration none uri, huri => exact ⟨isPart_xmlnsQualifier.toIsName, huri⟩
  | .declaration (some qualifier) uri, ⟨hqualifier, huri, _, _⟩ =>
    exact ⟨isPart_xmlnsQualifier.isName_qualified hqualifier.toIsName, huri⟩

theorem declares?_plain {key : Bytes} (hkey : key ≠ xmlnsQualifier)
    (hfront : ¬ (xmlnsQualifier ++ [':'.toUInt8]) <+: key) (value : Bytes) :
    Attribute.declares? ⟨key, value⟩ = none := by
  rw [Attribute.declares?, if_neg hkey, if_neg]
  rwa [List.isPrefixOf_iff_prefix]

theorem declares?_prefix (qualifier uri : Bytes) :
    Attribute.declares? (Assignment.declaration (some qualifier) uri).toAttribute =
      some (some qualifier) := by
  have hlong : ¬ xmlnsQualifier ++ ':'.toUInt8 :: qualifier = xmlnsQualifier := by simp
  have hfront : (xmlnsQualifier ++ [':'.toUInt8]).isPrefixOf
      (xmlnsQualifier ++ ':'.toUInt8 :: qualifier) = true := by
    rw [List.isPrefixOf_iff_prefix]
    exact ⟨qualifier, by simp⟩
  have hdrop : (xmlnsQualifier ++ ':'.toUInt8 :: qualifier).drop (xmlnsQualifier.length + 1) =
      qualifier := by
    simp [List.drop_append]
  rw [Assignment.toAttribute, Attribute.declares?, if_neg hlong, if_pos hfront, hdrop]

/-! ### Scopes -/

theorem lookup?_initial : Scope.lookup? Scope.initial = Namespaces.initial := by
  have hxml : ¬ xmlNamespace = [] := by decide
  have hxmlns : ¬ xmlnsNamespace = [] := by decide
  funext qualifier?
  simp only [Scope.lookup?, Scope.initial, Namespaces.initial, List.find?_cons, List.find?_nil,
    Function.update_apply, eq_comm (a := qualifier?)]
  by_cases hfirst : some xmlQualifier = qualifier?
  · simp [hfirst, hxml]
  · by_cases hsecond : some xmlnsQualifier = qualifier?
    · simp [hfirst, hsecond, hxmlns]
    · simp [hfirst, hsecond]

theorem lookup?_cons (qualifier? : Option Bytes) (uri : Bytes) (scope : Scope) :
    Scope.lookup? (⟨qualifier?, uri⟩ :: scope) =
      Namespaces.bind scope.lookup? qualifier? uri := by
  funext other?
  by_cases h : qualifier? = other?
  · subst h
    simp [Scope.lookup?, Namespaces.bind]
  · have hother : ¬ other? = qualifier? := fun heq => h heq.symm
    simp [Scope.lookup?, Namespaces.bind, h, hother]

/-- Reading what has been written declares what was meant. -/
theorem exists_declare_eq {list : List Assignment}
    (h : ∀ assignment ∈ list, assignment.Writable) (scope : Scope) :
    ∃ inner, scope.declare (list.map Assignment.toAttribute) = .ok inner ∧
      inner.lookup? = Assignment.declared scope.lookup? list := by
  induction list generalizing scope with
  | nil => exact ⟨scope, rfl, rfl⟩
  | cons assignment rest ih =>
    have hrest : ∀ assignment ∈ rest, assignment.Writable :=
      fun other hmem => h other (List.mem_cons_of_mem _ hmem)
    have hfirst := h assignment List.mem_cons_self
    match assignment, hfirst with
    | .plain key value, ⟨_, _, hkey, hfront⟩ =>
      obtain ⟨inner, hdeclare, hlookup⟩ := ih hrest scope
      refine ⟨inner, ?_, hlookup⟩
      rw [List.map_cons, Scope.declare, Assignment.toAttribute, declares?_plain hkey hfront]
      exact hdeclare
    | .declaration none uri, _ =>
      obtain ⟨inner, hdeclare, hlookup⟩ := ih hrest (⟨none, uri⟩ :: scope)
      rw [lookup?_cons] at hlookup
      refine ⟨inner, ?_, hlookup⟩
      rw [List.map_cons, Scope.declare, Assignment.toAttribute, Attribute.declares?, if_pos rfl]
      exact hdeclare
    | .declaration (some qualifier) uri, ⟨hqualifier, _, hxml, hxmlns⟩ =>
      obtain ⟨inner, hdeclare, hlookup⟩ := ih hrest (⟨some qualifier, uri⟩ :: scope)
      rw [lookup?_cons] at hlookup
      refine ⟨inner, ?_, hlookup⟩
      have hvalue : (Assignment.declaration (some qualifier) uri).toAttribute.value = uri := rfl
      rw [List.map_cons, Scope.declare, declares?_prefix, hvalue]
      simp [hqualifier.ne_xml, hqualifier.ne_xmlns, hxml, hxmlns, hqualifier.nonempty, hdeclare]

/-- A written name means its local part in the namespace of its prefix. -/
theorem resolve_qualified {qualifier? : Option Bytes} {localName : Bytes}
    (hqualifier : ∀ qualifier ∈ qualifier?, IsPart qualifier) (hlocal : IsPart localName)
    (scope : Scope) :
    scope.resolve (qualified qualifier? localName) = ⟨scope.lookup? qualifier?, localName⟩ := by
  cases qualifier? with
  | none =>
    have hcolon : ¬ localName.contains ':'.toUInt8 = true := by simpa using hlocal.colonFree
    rw [qualified, Scope.resolve, if_neg hcolon]
  | some qualifier =>
    have hfree := (hqualifier qualifier rfl).colonFree
    have hcolon : (qualifier ++ ':'.toUInt8 :: localName).contains ':'.toUInt8 = true := by simp
    rw [qualified, Scope.resolve, if_pos hcolon, upTo_append hfree]

end DeviceAssets.Xml
