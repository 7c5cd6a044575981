import EntityMapping.Attribute.Basic

/-!
Sums of money, stored as a text of the currency, a blank and the amount. The currency ends at
the first blank; a sum without a currency cannot be stored.
-/

namespace EntityMapping

/-- An amount in the smallest unit of a currency. -/
structure Money where
  currency : String
  amount : Int64
  deriving DecidableEq

namespace Money

def blank : Money := ⟨"", 0⟩

/-! ### State -/

def toContent (m : Money) : Value := .list [.text m.currency, .integer m.amount]

def ofContent : Value → Money
  | .list [.text currency, .integer amount] => ⟨currency, amount⟩
  | _ => blank

@[simp] theorem ofContent_toContent (m : Money) : ofContent m.toContent = m := rfl

/-! ### Stored text -/

def text (m : Money) : String :=
  m.currency ++ " " ++ String.ofList (Numeral.ofInt m.amount.toInt)

/-- The parts around the first blank of a text. -/
def ofText? (s : String) : Option Money := do
  let (currency, rest) := s.toList.span (· != ' ')
  let digits ← rest.tail?
  let amount ← Numeral.int64? digits
  some ⟨String.ofList currency, amount⟩

/-! ### Conversion -/

def toNative (m : Money) : Except MapperError Value :=
  if m.currency.isEmpty then .error (.raised .converter "Money without a currency")
  else .ok (.text m.text)

def ofNative : Value → Except MapperError Money
  | .text s =>
    match ofText? s with
    | some m => .ok m
    | none => .error (.raised .converter ("Malformed money '" ++ s ++ "'"))
  | v => .error (.raised .converter ("Money expects text, got " ++ v.display))

def converter (ref : ConverterRef) : Converter where
  ref := ref
  write v := (ofContent v).toNative
  read v := (ofNative v).map toContent

end Money

end EntityMapping
