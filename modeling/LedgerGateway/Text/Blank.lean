/-! The blank characters of Unicode, and texts without them at either end. -/

namespace LedgerGateway.Text

/-- The characters with the property White_Space. -/
def isBlank (c : Char) : Bool :=
  let n := c.toNat
  (9 ≤ n && n ≤ 13) || n == 0x20 || n == 0x85 || n == 0xa0 || n == 0x1680 ||
    (0x2000 ≤ n && n ≤ 0x200a) || n == 0x2028 || n == 0x2029 || n == 0x202f || n == 0x205f ||
    n == 0x3000

/-- The characters without the blank ones at the front. -/
def trimStart (cs : List Char) : List Char := cs.dropWhile isBlank

/-- The characters without the blank ones at either end. -/
def trimChars (cs : List Char) : List Char := (trimStart (trimStart cs).reverse).reverse

section
variable {before cs after : List Char}

theorem trimStart_append (blank : ∀ c ∈ before, isBlank c = true) :
    trimStart (before ++ cs) = trimStart cs :=
  List.dropWhile_append_of_pos blank

theorem trimStart_of_visible (visible : ∀ c ∈ cs, isBlank c = false) : trimStart cs = cs := by
  cases cs with
  | nil => rfl
  | cons c cs => exact List.dropWhile_cons_of_neg (by simp [visible c])

/-- A text without blanks is what is left when it stands between blanks. -/
theorem trimChars_between (blank : ∀ c ∈ before, isBlank c = true)
    (visible : ∀ c ∈ cs, isBlank c = false) (blank' : ∀ c ∈ after, isBlank c = true) :
    trimChars (before ++ cs ++ after) = cs := by
  cases cs with
  | nil =>
    have none : trimStart (after ++ []) = [] := trimStart_append blank'
    rw [List.append_nil] at none
    rw [trimChars, List.append_nil, trimStart_append blank, none]
    rfl
  | cons c cs =>
    have front : trimStart (c :: cs ++ after) = c :: cs ++ after :=
      List.dropWhile_cons_of_neg (by simp [visible c])
    have back : trimStart (c :: cs).reverse = (c :: cs).reverse :=
      trimStart_of_visible fun c hc => visible c (List.mem_reverse.mp hc)
    rw [trimChars, List.append_assoc, trimStart_append blank, front, List.reverse_append,
      trimStart_append fun c hc => blank' c (List.mem_reverse.mp hc), back, List.reverse_reverse]

theorem trimChars_of_visible (visible : ∀ c ∈ cs, isBlank c = false) : trimChars cs = cs := by
  have between := trimChars_between (List.forall_mem_nil _) visible (List.forall_mem_nil _)
  rwa [List.nil_append, List.append_nil] at between

end

end LedgerGateway.Text
