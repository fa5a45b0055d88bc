/-!
# Session tokens

A token names a live session of a backend.  Zero is no token: it is how a
backend says that it gave none.
-/

namespace DemuxSession

/-- The name of a session: a positive number. -/
structure Token where
  value : Nat
  positive : 0 < value
  deriving DecidableEq

namespace Token

/-- The token of a number; none for zero. -/
def ofNat? (value : Nat) : Option Token :=
  if positive : 0 < value then some ⟨value, positive⟩ else none

theorem exists_ofNat?_of_ne_zero {value : Nat} (hne : value ≠ 0) :
    ∃ token, ofNat? value = some token :=
  ⟨⟨value, Nat.pos_of_ne_zero hne⟩, dif_pos (Nat.pos_of_ne_zero hne)⟩

/-- The token of a slot: slots are counted from zero and tokens from one. -/
def ofSlot (slot : Nat) : Token := ⟨slot + 1, Nat.succ_pos slot⟩

/-- The slot of a token. -/
def slot (token : Token) : Nat := token.value - 1

@[simp] theorem slot_ofSlot (slot : Nat) : (ofSlot slot).slot = slot := rfl

@[simp] theorem ofSlot_slot (token : Token) : ofSlot token.slot = token := by
  obtain ⟨value, positive⟩ := token
  simp only [ofSlot, slot, Token.mk.injEq]
  omega

/-- The token in log lines: hexadecimal, lower case, without leading zeros. -/
def display (token : Token) : String :=
  "0x" ++ String.ofList (Nat.toDigits 16 token.value)

/-- The token with its type, in decimal. -/
def describe (token : Token) : String :=
  "SessionToken(" ++ toString token.value ++ ")"

end Token

end DemuxSession
