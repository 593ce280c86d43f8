import DiagnosticCatalog.Decimal.Numeral
import DiagnosticCatalog.Proofs.Text.Case
import DiagnosticCatalog.Text.Blank
/-!
Decimal digits of a number: they are digits, there are no more of them than its size allows, and
they read back as the number. A run of digits denotes no number that its length does not allow.
-/

namespace DiagnosticCatalog.Decimal

theorem digitChar_spec : ∀ n < 10, isDigit (digitChar n) = true ∧ digitValue (digitChar n) = n := by
  decide

theorem isDigit_of_mem_digitsOnto {n : Nat} {tail : List Char} (ht : ∀ c ∈ tail, isDigit c = true) :
    ∀ c ∈ digitsOnto n tail, isDigit c = true := by
  induction n, tail using digitsOnto.induct with
  | case1 n tail hn =>
      rw [digitsOnto, if_pos hn]
      simp only [List.mem_cons, forall_eq_or_imp]
      exact ⟨(digitChar_spec n hn).1, ht⟩
  | case2 n tail hn ih =>
      rw [digitsOnto, if_neg hn]
      refine ih ?_
      simp only [List.mem_cons, forall_eq_or_imp]
      exact ⟨(digitChar_spec _ (Nat.mod_lt n (by decide))).1, ht⟩

theorem isDigit_of_mem_digits {n : Nat} {c : Char} (h : c ∈ digits n) : isDigit c = true :=
  isDigit_of_mem_digitsOnto (by simp) c h

theorem foldl_digitsOnto (n : Nat) (tail : List Char) :
    (digitsOnto n tail).foldl (fun n c => 10 * n + digitValue c) 0 =
      tail.foldl (fun n c => 10 * n + digitValue c) n := by
  induction n, tail using digitsOnto.induct with
  | case1 n tail hn =>
      rw [digitsOnto, if_pos hn, List.foldl_cons, (digitChar_spec n hn).2, Nat.mul_zero, Nat.zero_add]
  | case2 n tail hn ih =>
      rw [digitsOnto, if_neg hn, ih, List.foldl_cons,
        (digitChar_spec _ (Nat.mod_lt n (by decide))).2, Nat.div_add_mod]

/-- Digits read back as the number that they were written for. -/
@[simp] theorem ofDigits_digits (n : Nat) : ofDigits (digits n) = n := foldl_digitsOnto n []

theorem length_digitsOnto_le {n : Nat} {tail : List Char} {k : Nat} (hk : 0 < k)
    (h : n < Nat.pow 10 k) : (digitsOnto n tail).length ≤ k + tail.length := by
  induction n, tail using digitsOnto.induct generalizing k with
  | case1 n tail hn =>
      rw [digitsOnto, if_pos hn, List.length_cons]
      omega
  | case2 n tail hn ih =>
      rw [digitsOnto, if_neg hn]
      obtain ⟨k, rfl⟩ := Nat.exists_eq_succ_of_ne_zero (Nat.ne_of_gt hk)
      have hsucc : Nat.pow 10 (k + 1) = Nat.pow 10 k * 10 := rfl
      rw [Nat.succ_eq_add_one, hsucc] at h
      have hk : 0 < k := by
        cases k with
        | zero => exact absurd (by simpa using h) hn
        | succ k => exact k.succ_pos
      have hl := ih hk (by omega)
      rw [List.length_cons] at hl
      omega

theorem digits_ne_nil (n : Nat) : digits n ≠ [] := by
  have key (tail : List Char) : digitsOnto n tail ≠ [] := by
    induction n, tail using digitsOnto.induct with
    | case1 n tail hn => rw [digitsOnto, if_pos hn]; simp
    | case2 n tail hn ih => rw [digitsOnto, if_neg hn]; exact ih
  exact key []

theorem exists_digits_cons (n : Nat) : ∃ c cs, digits n = c :: cs ∧ isDigit c = true := by
  obtain ⟨c, cs, hcs⟩ := List.exists_cons_of_ne_nil (digits_ne_nil n)
  exact ⟨c, cs, hcs, isDigit_of_mem_digits (hcs ▸ List.mem_cons_self)⟩

theorem intDigits_ne_nil (n : Int) : intDigits n ≠ [] := by
  cases n with
  | ofNat n => exact digits_ne_nil n
  | negSucc n => exact List.cons_ne_nil _ _

theorem isNumeral_digits (n : Nat) : isNumeral (digits n) = true := by
  simp only [isNumeral, Bool.and_eq_true, Bool.not_eq_true', List.isEmpty_eq_false_iff]
  exact ⟨digits_ne_nil n, List.all_eq_true.2 fun c hc => isDigit_of_mem_digits hc⟩

theorem length_digits_le {n k : Nat} (hk : 0 < k) (h : n < Nat.pow 10 k) : (digits n).length ≤ k :=
  length_digitsOnto_le hk h

theorem digitValue_lt {c : Char} (h : isDigit c = true) : digitValue c < 10 := by
  simp only [isDigit, Bool.and_eq_true, decide_eq_true_eq] at h
  rw [digitValue]
  omega

theorem foldl_digits_lt {cs : List Char} (h : ∀ c ∈ cs, isDigit c = true) (n : Nat) :
    cs.foldl (fun n c => 10 * n + digitValue c) n < (n + 1) * Nat.pow 10 cs.length := by
  induction cs generalizing n with
  | nil =>
      change n < (n + 1) * 1
      omega
  | cons c cs ih =>
      have hc := digitValue_lt (h c List.mem_cons_self)
      have hrest := ih (fun c hc => h c (List.mem_cons_of_mem _ hc)) (10 * n + digitValue c)
      have hstep : 10 * n + digitValue c + 1 ≤ (n + 1) * 10 := by omega
      have hpow : Nat.pow 10 (c :: cs).length = 10 * Nat.pow 10 cs.length := Nat.mul_comm _ 10
      rw [List.foldl_cons, hpow, ← Nat.mul_assoc]
      exact Nat.lt_of_lt_of_le hrest (Nat.mul_le_mul_right _ hstep)

theorem ofDigits_lt {cs : List Char} (h : ∀ c ∈ cs, isDigit c = true) :
    ofDigits cs < Nat.pow 10 cs.length :=
  Nat.lt_of_lt_of_eq (foldl_digits_lt h 0) (Nat.one_mul _)

/-- A number that can be written can be read back. -/
theorem readNumeral_digits {n : Nat} (h : isWritable n = true) : readNumeral (digits n) = .ok n := by
  have hk : 0 < digitLimit := by decide
  simp only [isWritable, Int.natAbs_natCast, decide_eq_true_eq] at h
  rw [readNumeral, ofDigits_digits]
  -- The limit stays a variable, so that its power of ten is not computed.
  generalize digitLimit = k at hk h ⊢
  rw [if_neg (Nat.not_lt.2 (length_digits_le hk h))]

/-- The characters of a written number: digits, and perhaps a dash. -/
theorem mem_intDigits {n : Int} {c : Char} (h : c ∈ intDigits n) : isDigit c = true ∨ c = '-' := by
  cases n with
  | ofNat n => exact .inl (isDigit_of_mem_digits h)
  | negSucc n =>
      rcases List.mem_cons.1 h with rfl | h
      · exact .inr rfl
      · exact .inl (isDigit_of_mem_digits h)

theorem not_isBlank_of_isDigit {c : Char} (h : isDigit c = true ∨ c = '-') :
    Text.isBlank c = false := by
  rcases h with h | rfl
  · simp only [isDigit, Bool.and_eq_true, decide_eq_true_eq] at h
    simp only [Text.isBlank]
    grind
  · decide

theorem toLower_of_isDigit {c : Char} (h : isDigit c = true) : c.toLower = c := by
  simp only [isDigit, Bool.and_eq_true, decide_eq_true_eq] at h
  refine Text.forall_ascii (P := fun c => c.toNat ≤ 0x39 → c.toLower = c) (by decide) ?_ h.2
  omega

end DiagnosticCatalog.Decimal
