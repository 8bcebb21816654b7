import DeviceAssets.Xml.Token

/-!
# Names and namespaces

The attributes of a start tag may bind prefixes, and a name with a prefix stands for
a pair: the namespace its prefix is bound to, and its local part. Bindings are kept
newest first, so a search finds the one that counts.
-/

namespace DeviceAssets.Xml

/-- An attribute of a start tag, its value as it stands between the quotation marks. -/
structure Attribute where
  key : Bytes
  value : Bytes
  deriving DecidableEq, Repr

/-- The first attribute of `bytes` and what follows it, if a well-formed one stands
there. -/
def attribute? (bytes : Bytes) : Option (Attribute × Bytes) :=
  match bytes.dropWhile isSpace with
  | [] => none
  | first :: rest =>
    let inKey := fun octet : UInt8 => octet != '='.toUInt8 && !isSpace octet
    match (rest.dropWhile inKey).dropWhile isSpace with
    | [] => none
    | sign :: back =>
      if sign = '='.toUInt8 then
        match back.dropWhile isSpace with
        | [] => none
        | quote :: back =>
          if (quote = 0x22 || quote = 0x27) && back.contains quote then
            let (value, behind) := upTo quote back
            some (⟨first :: rest.takeWhile inKey, value⟩, behind)
          else none
      else none

theorem length_attribute?_lt {bytes rest : Bytes} {found : Attribute}
    (h : attribute? bytes = some (found, rest)) : rest.length < bytes.length := by
  unfold attribute? at h
  have hstart := length_dropWhile_le isSpace bytes
  split at h
  · exact nomatch h
  · rename_i first key hfirst
    rw [hfirst] at hstart
    dsimp only at h
    split at h
    · exact nomatch h
    · rename_i sign back hsign
      have hkey := length_dropWhile_le isSpace
        (key.dropWhile fun octet : UInt8 => octet != '='.toUInt8 && !isSpace octet)
      have hname := length_dropWhile_le
        (fun octet : UInt8 => octet != '='.toUInt8 && !isSpace octet) key
      rw [hsign] at hkey
      split at h
      · split at h
        · exact nomatch h
        · rename_i quote value hquote
          have hback := length_dropWhile_le isSpace back
          rw [hquote] at hback
          split at h
          · simp only [Option.some.injEq] at h
            have hrest : (upTo quote value).2 = rest := congrArg Prod.snd h
            have := length_upTo_le quote value
            rw [hrest] at this
            simp only [List.length_cons] at hstart hkey hback
            omega
          · exact nomatch h
      · exact nomatch h

/-- The attributes of a tag up to the first one that is not well-formed. -/
def attributes (bytes : Bytes) : List Attribute :=
  match _ : attribute? bytes with
  | none => []
  | some (found, rest) => found :: attributes rest
termination_by bytes.length
decreasing_by exact length_attribute?_lt ‹_›

def nameOf (content : Bytes) : Bytes :=
  content.takeWhile (!isSpace ·)

def behindName (content : Bytes) : Bytes :=
  content.dropWhile (!isSpace ·)

/-- A prefix, or none for names without one, and the namespace it stands for. An empty
namespace unbinds the prefix. -/
structure Binding where
  qualifier? : Option Bytes
  uri : Bytes
  deriving DecidableEq, Repr

/-- The bindings in force, newest first. -/
abbrev Scope := List Binding

def xmlNamespace : Bytes :=
  Bytes.ofString "http://www.w3.org/XML/1998/namespace"

def xmlnsNamespace : Bytes :=
  Bytes.ofString "http://www.w3.org/2000/xmlns/"

def xmlQualifier : Bytes := Bytes.ofString "xml"

/-- The name of a declaration of the default namespace, and the prefix of the others. -/
def xmlnsQualifier : Bytes := Bytes.ofString "xmlns"

def Scope.initial : Scope :=
  [⟨some xmlQualifier, xmlNamespace⟩, ⟨some xmlnsQualifier, xmlnsNamespace⟩]

/-- What an attribute declares, if it is a declaration: the default namespace, or the
namespace of a prefix. -/
def Attribute.declares? (found : Attribute) : Option (Option Bytes) :=
  if found.key = xmlnsQualifier then some none
  else if (xmlnsQualifier ++ [':'.toUInt8]).isPrefixOf found.key then
    some (some (found.key.drop (xmlnsQualifier.length + 1)))
  else none

/-- The scope after the declarations among `list`. The two reserved prefixes and the
two reserved namespaces can be bound to nothing but each other, and an empty prefix
is no prefix. -/
def Scope.declare (scope : Scope) : List Attribute → Except Error Scope
  | [] => .ok scope
  | found :: rest =>
    match found.declares? with
    | none => scope.declare rest
    | some none => Scope.declare (⟨none, found.value⟩ :: scope) rest
    | some (some qualifier) =>
      if qualifier = xmlQualifier && found.value = xmlNamespace then scope.declare rest
      else if qualifier = xmlQualifier || qualifier = xmlnsQualifier ||
          found.value = xmlNamespace || found.value = xmlnsNamespace then
        .error (.reservedBinding qualifier found.value)
      else
        let bound := if qualifier = [] then none else some qualifier
        Scope.declare (⟨bound, found.value⟩ :: scope) rest

structure Name where
  /-- The namespace, if there is one. -/
  uri? : Option Bytes
  localName : Bytes
  deriving DecidableEq, Repr

def Scope.lookup? (scope : Scope) (qualifier? : Option Bytes) : Option Bytes :=
  match scope.find? fun binding => binding.qualifier? = qualifier? with
  | some binding => if binding.uri = [] then none else some binding.uri
  | none => none

def Scope.resolve (scope : Scope) (name : Bytes) : Name :=
  if name.contains ':'.toUInt8 then
    let (qualifier, localName) := upTo ':'.toUInt8 name
    ⟨scope.lookup? (some qualifier), localName⟩
  else ⟨scope.lookup? none, name⟩

end DeviceAssets.Xml
