import EntityMapping.Attribute.Basic

/-!
Mottoes: texts that are stored as they are, except that the empty one is stored as null. All
that is not a text is read as the empty motto.
-/

namespace EntityMapping.Motto

def blank : Value := .text ""

def words : Value → String
  | .text s => s
  | _ => ""

def toNative (v : Value) : Value :=
  if (words v).isEmpty then .null else .text (words v)

def ofNative (v : Value) : Value := .text (words v)

def converter (ref : ConverterRef) : Converter where
  ref := ref
  write v := .ok (toNative v)
  read v := .ok (ofNative v)

/-- A motto survives storage. -/
theorem ofNative_toNative (s : String) : ofNative (toNative (.text s)) = .text s := by
  by_cases h : s.isEmpty
  · simp_all [toNative, ofNative, words, String.isEmpty_iff]
  · simp [toNative, ofNative, words, h]

end EntityMapping.Motto
