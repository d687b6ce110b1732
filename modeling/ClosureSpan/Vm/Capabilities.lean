/-!
# Capabilities

A tool has to ask the machine for every capability that it wants to use.  There are 128 of them, and
they are handled as a set of bits.

## Main definitions

* `CapabilitySet` — a set of capabilities, with `has`, `put`, `ofBits` and `bits`.
* `sourceFileNameBit`, `lineNumbersBit`, `localVariablesBit` — the three that matter here.
-/

namespace ClosureSpan

/-- A set of capabilities, a bit for each. -/
abbrev CapabilitySet := BitVec 128

namespace CapabilitySet

/-- The capability to read the name of a source file. -/
def sourceFileNameBit : Nat := 11
/-- The capability to read line tables. -/
def lineNumbersBit : Nat := 12
/-- The capability to read local variable tables. -/
def localVariablesBit : Nat := 14

/-- Whether the capability of this bit is in the set. -/
def has (set : CapabilitySet) (bit : Nat) : Bool := set.getLsbD bit

/-- The set with this capability put in or taken out. -/
def put (set : CapabilitySet) (bit : Nat) (present : Bool) : CapabilitySet :=
  if present then set ||| BitVec.twoPow 128 bit else set &&& ~~~BitVec.twoPow 128 bit

/-- The set of the capabilities with these bits. -/
def ofBits (bits : List Nat) : CapabilitySet := bits.foldl (fun set bit => set.put bit true) 0

/-- The bits of the set, in ascending order. -/
def bits (set : CapabilitySet) : List Nat := (List.range 128).filter set.has

/-- After a capability is put in or taken out, it is there or not, and all others are as before. -/
theorem has_put (set : CapabilitySet) {bit other : Nat} (present : Bool) (h : bit < 128) :
    (set.put bit present).has other = if other = bit then present else set.has other := by
  unfold put has
  by_cases same : other = bit
  · subst same; cases present <;> simp [h]
  · cases present with
    | true => simp [same, Ne.symm same, BitVec.getLsbD_twoPow]
    | false =>
      by_cases ho : other < 128
      · simp [same, ho]
      · simp [same, ho, BitVec.getLsbD_of_ge set other (Nat.le_of_not_lt ho)]

end CapabilitySet
end ClosureSpan
