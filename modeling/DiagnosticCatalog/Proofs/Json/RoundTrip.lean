import DiagnosticCatalog.Json.Printer
import DiagnosticCatalog.Proofs.Json.Reader
import DiagnosticCatalog.Proofs.Text
/-!
JSON text as it is written is read back, in every margin. The reader needs no more steps than the
text has characters, and stops where the value ends: behind it stands a comma, a closing bracket or
the end of a line.
-/

namespace DiagnosticCatalog.Json

open Decimal

/-- The text is at its end, or goes on as text goes on behind a value. -/
def Closes (rest : List Char) : Prop := ∀ c ∈ rest.head?, c = ',' ∨ c = ']' ∨ c = '\x7d' ∨ c = '\n'

/-- The text starts with a character that neither is blank nor closes an array or an object. -/
def Opens (cs : List Char) : Prop :=
  ∃ c ∈ cs.head?, isSpace c = false ∧ c ≠ ']' ∧ c ≠ '\x7d'

/-! ## Strings -/

/-- Puts a letter in front of those that were read. -/
def prepend (l : Letter) (r : List Letter × List Char) : List Letter × List Char := (l :: r.1, r.2)

theorem readLetters_unit {a b c d : Char} {n : Nat} (h : hexUnit? a b c d = some n)
    (cs : List Char) : readLetters ('\\' :: 'u' :: a :: b :: c :: d :: cs) =
      (readLetters cs).map (prepend (.ofCode n)) := by
  rw [readLetters, h]
  cases readLetters cs <;> rfl

theorem readLetters_simple {c : Char} (hc : c ≠ 'u') {n : Nat} (h : simpleEscape? c = some n)
    (cs : List Char) :
    readLetters ('\\' :: c :: cs) = (readLetters cs).map (prepend (.ofCode n)) := by
  rw [readLetters.eq_4 c cs fun _ _ _ _ _ hu _ => hc hu, h]
  cases readLetters cs <;> rfl

theorem readLetters_plain {c : Char} (hquote : c ≠ '\x22') (hslash : c ≠ '\\')
    (hc : ¬c.toNat < 0x20) (cs : List Char) :
    readLetters (c :: cs) = (readLetters cs).map (prepend (.char c)) := by
  rw [readLetters.eq_5 c cs hquote (fun _ _ _ _ _ h _ => hslash h) fun _ _ h _ => hslash h,
    if_neg (by simpa using ⟨hslash, Nat.not_lt.1 hc⟩)]
  cases readLetters cs <;> rfl

theorem hexUnit?_hexDigits : ∀ n < 0x20, hexUnit? (Text.hexDigit (n / Nat.pow 16 3 % 16))
    (Text.hexDigit (n / Nat.pow 16 2 % 16)) (Text.hexDigit (n / Nat.pow 16 1 % 16))
    (Text.hexDigit (n / Nat.pow 16 0 % 16)) = some n := by
  decide

theorem ofCode_toNat (c : Char) : Letter.ofCode c.toNat = .char c := by
  have hvalid : ¬(0xD800 ≤ c.toNat ∧ c.toNat < 0xE000) := by
    have hc := c.valid
    simp only [UInt32.isValidChar, Nat.isValidChar] at hc
    simp only [Char.toNat]
    omega
  rw [Letter.ofCode, dif_neg hvalid, Char.ofNat_toNat]

/-- A character is read back from its escaped form. -/
theorem readLetters_escapeChar (c : Char) (cs : List Char) :
    readLetters (escapeChar c ++ cs) = (readLetters cs).map (prepend (.char c)) := by
  rw [← ofCode_toNat c, escapeChar]
  split
  · rename_i h
    rcases (by simpa using h : c = '\x22' ∨ c = '\\') with rfl | rfl
    · exact readLetters_simple (by decide) rfl cs
    · exact readLetters_simple (by decide) rfl cs
  rename_i hmark
  split
  · rename_i h
    exact h ▸ readLetters_simple (by decide) rfl cs
  split
  · rename_i h
    exact h ▸ readLetters_simple (by decide) rfl cs
  split
  · rename_i h
    exact h ▸ readLetters_simple (by decide) rfl cs
  split
  · rename_i h
    exact h ▸ readLetters_simple (by decide) rfl cs
  split
  · rename_i h
    exact h ▸ readLetters_simple (by decide) rfl cs
  split
  · rename_i h
    exact readLetters_unit (hexUnit?_hexDigits c.toNat h) cs
  · rename_i h
    obtain ⟨hquote, hslash⟩ := not_or.1 (by simpa using hmark)
    rw [ofCode_toNat]
    exact readLetters_plain hquote hslash h cs

theorem readLetters_escaped (cs rest : List Char) :
    readLetters (cs.flatMap escapeChar ++ '\x22' :: rest) = some (cs.map .char, rest) := by
  induction cs with
  | nil => exact readLetters.eq_2 rest
  | cons c cs ih =>
      rw [List.flatMap_cons, List.append_assoc, readLetters_escapeChar, ih]
      rfl

theorem joinHalves_chars (cs : List Char) : joinHalves (cs.map .char) = cs.map .char := by
  induction cs with
  | nil => rfl
  | cons c cs ih => exact congrArg (Letter.char c :: ·) ih

theorem string_ofChars (cs : List Char) :
    string (.ofChars cs) = '\x22' :: (cs.flatMap escapeChar ++ ['\x22']) := by
  rw [string, Text.ofChars, List.flatMap_map]
  rfl

/-- What stands behind the opening quote is read up to the closing one. -/
theorem readString_string (cs rest : List Char) :
    readString (cs.flatMap escapeChar ++ '\x22' :: rest) = .ok (.ofChars cs, rest) := by
  rw [readString, readLetters_escaped, Text.ofChars]
  simp only [joinHalves_chars]

/-! ## Numbers -/

theorem takeWhile_digits {rest : List Char} (h : Closes rest) {ds : List Char}
    (hds : ∀ c ∈ ds, isDigit c = true) :
    (ds ++ rest).takeWhile isDigit = ds ∧ (ds ++ rest).dropWhile isDigit = rest := by
  have hrest : ∀ c ∈ rest.head?, isDigit c = false := by
    intro c hc
    rcases h c hc with rfl | rfl | rfl | rfl <;> decide
  rw [List.takeWhile_append_of_pos hds, List.dropWhile_append_of_pos hds]
  cases rest with
  | nil => exact ⟨List.append_nil _, rfl⟩
  | cons c rest =>
      have hc : ¬isDigit c = true := by simp [hrest c rfl]
      rw [List.takeWhile_cons_of_neg hc, List.dropWhile_cons_of_neg hc, List.append_nil]
      exact ⟨rfl, rfl⟩

/-- Only the number zero is written with a zero in front. -/
theorem head?_digitsOnto {n : Nat} (hn : n ≠ 0) (tail : List Char) :
    ∃ d cs, digitsOnto n tail = d :: cs ∧ d ≠ '0' := by
  induction n, tail using digitsOnto.induct with
  | case1 n tail hlt =>
      refine ⟨digitChar n, tail, by rw [digitsOnto, if_pos hlt], fun h => hn ?_⟩
      have hvalue := (digitChar_spec n hlt).2
      rw [h] at hvalue
      exact hvalue.symm.trans rfl
  | case2 n tail hlt ih =>
      rw [digitsOnto, if_neg hlt]
      exact ih (by omega)

theorem takeWhole_digits {rest : List Char} (h : Closes rest) (n : Nat) :
    takeWhole (digits n ++ rest) = (digits n, rest) := by
  by_cases hn : n = 0
  · subst hn
    have hzero : digits 0 = ['0'] := by rw [digits, digitsOnto]; rfl
    rw [hzero]
    rfl
  · obtain ⟨d, cs, hds, hd⟩ := head?_digitsOnto hn []
    obtain ⟨htake, hdrop⟩ := takeWhile_digits h fun c hc => isDigit_of_mem_digits (n := n) hc
    have hcons : digits n ++ rest = d :: (cs ++ rest) := by rw [digits, hds, List.cons_append]
    rw [hcons, takeWhole.eq_2 _ fun _ hzero => hd (List.cons.inj hzero).1, ← hcons, htake, hdrop]

theorem takeFraction_closes {rest : List Char} (h : Closes rest) : takeFraction rest = ([], rest) := by
  refine takeFraction.eq_2 rest fun more hrest => ?_
  have hpoint := h '.' (hrest ▸ rfl)
  revert hpoint
  decide

theorem takeExponent_closes {rest : List Char} (h : Closes rest) : takeExponent rest = (none, rest) := by
  cases rest with
  | nil => rfl
  | cons c rest =>
      rcases h c rfl with rfl | rfl | rfl | rfl <;> rfl

theorem readNumber_digits {rest : List Char} (h : Closes rest) {n : Nat} (hn : isWritable n = true)
    (negative : Bool) :
    readNumber negative (digits n ++ rest) = .ok (.whole (Binary64.signed negative n), rest) := by
  have hne : (digits n).isEmpty = false := List.isEmpty_eq_false_iff.2 (digits_ne_nil n)
  simp only [readNumber, takeWhole_digits h, hne, takeFraction_closes h, takeExponent_closes h,
    readNumeral_digits hn]
  rfl

/-! ## Scalars -/

theorem ne_of_isDigit {c d : Char} (hc : isDigit c = true) (hd : isDigit d = false) : c ≠ d := by
  rintro rfl
  cases hc.symm.trans hd

theorem readWord_digit {c : Char} (hc : isDigit c = true) (cs : List Char) :
    readWord (c :: cs) = none ∧ readWord ('-' :: c :: cs) = none := by
  have hne : ∀ d : Char, isDigit d = false → ¬d = c := fun d hd => (ne_of_isDigit hc hd).symm
  simp [readWord, words, afterWord?, hne 'n' rfl, hne 't' rfl, hne 'f' rfl, hne 'N' rfl, hne 'I' rfl,
    hne '-' rfl]

theorem readScalar_digit {c : Char} (hc : isDigit c = true) (cs : List Char) :
    readScalar (c :: cs) = readNumber false (c :: cs) ∧
      readScalar ('-' :: c :: cs) = readNumber true (c :: cs) := by
  obtain ⟨hplain, hminus⟩ := readWord_digit hc cs
  constructor
  · rw [readScalar, hplain]
    · exact fun rest h => ne_of_isDigit hc (d := '\x22') rfl (List.cons.inj h).1
    · exact fun rest h => ne_of_isDigit hc (d := '-') rfl (List.cons.inj h).1
  · rw [readScalar, hminus]

theorem readScalar_intDigits {rest : List Char} (h : Closes rest) {n : Int}
    (hn : isWritable n = true) : readScalar (intDigits n ++ rest) = .ok (.whole n, rest) := by
  cases n with
  | ofNat n =>
      obtain ⟨c, cs, hcs, hc⟩ := exists_digits_cons n
      rw [intDigits, hcs, List.cons_append, (readScalar_digit hc _).1, ← List.cons_append, ← hcs,
        readNumber_digits h hn]
      rfl
  | negSucc n =>
      obtain ⟨c, cs, hcs, hc⟩ := exists_digits_cons (n + 1)
      rw [intDigits, hcs, List.cons_append, List.cons_append, (readScalar_digit hc _).2,
        ← List.cons_append, ← hcs, readNumber_digits h hn]
      rfl

theorem readScalar_string (cs rest : List Char) :
    readScalar (string (.ofChars cs) ++ rest) = .ok (.text (.ofChars cs), rest) := by
  have hword : ∀ tail, readWord ('\x22' :: tail) = none := fun _ => rfl
  rw [string_ofChars, List.cons_append, List.append_assoc, List.singleton_append, readScalar, hword]
  simp only [readString_string]
  rfl

/-! ## Containers -/

/-- Behind an item: the further items, each behind a separator, and the closing bracket. -/
def tail (margin : Margin) (depth : Nat) (closing : Char) (items : List (List Char)) : List Char :=
  items.flatMap (separator margin (depth + 1) ++ ·) ++ lineBreak margin depth ++ [closing]

theorem enclose_cons (margin : Margin) (depth : Nat) (opening closing : Char) (item : List Char)
    (items : List (List Char)) : enclose margin depth opening closing (item :: items) =
      opening :: (lineBreak margin (depth + 1) ++ (item ++ tail margin depth closing items)) := by
  simp only [enclose, tail, List.cons_append, List.append_assoc]

theorem skipSpace_lineBreak (margin : Margin) (depth : Nat) (cs : List Char) :
    skipSpace (lineBreak margin depth ++ cs) = skipSpace cs := by
  cases margin with
  | none => rfl
  | some n =>
      refine List.dropWhile_append_of_pos fun c hc => ?_
      rcases List.mem_cons.1 hc with rfl | hc
      · rfl
      · rw [List.eq_of_mem_replicate hc]
        rfl

theorem Opens.append {cs : List Char} (h : Opens cs) (rest : List Char) : Opens (cs ++ rest) := by
  obtain ⟨c, hc, hc'⟩ := h
  exact ⟨c, by rw [List.head?_append, Option.mem_def.1 hc]; rfl, hc'⟩

theorem skipSpace_opens {cs : List Char} (h : Opens cs) (rest : List Char) :
    skipSpace (cs ++ rest) = cs ++ rest := by
  obtain ⟨c, hc, hspace, _⟩ := h
  obtain ⟨tail, rfl⟩ := List.head?_eq_some_iff.1 hc
  exact List.dropWhile_cons_of_neg (by simp [hspace])

/-- A comma, and then nothing but blanks. -/
theorem exists_separator (margin : Margin) (depth : Nat) : ∃ gap,
    separator margin depth = ',' :: gap ∧ ∀ cs, skipSpace (gap ++ cs) = skipSpace cs := by
  cases margin with
  | none => exact ⟨[' '], rfl, fun _ => rfl⟩
  | some n => exact ⟨_, rfl, skipSpace_lineBreak (some n) depth⟩

theorem closes_cons {c : Char} (h : c = ',' ∨ c = ']' ∨ c = '\x7d' ∨ c = '\n') (rest : List Char) :
    Closes (c :: rest) := by
  intro d hd
  rwa [← Option.some.inj hd]

variable {margin : Margin} {depth : Nat} {closing : Char} (item : List Char)
  (items : List (List Char)) (rest : List Char)

theorem tail_cons : tail margin depth closing (item :: items) =
    separator margin (depth + 1) ++ (item ++ tail margin depth closing items) := by
  simp only [tail, List.flatMap_cons, List.append_assoc]

theorem closes_tail (hclosing : closing = ']' ∨ closing = '\x7d') :
    Closes (tail margin depth closing items ++ rest) := by
  cases items with
  | nil =>
      cases margin with
      | none => exact closes_cons (.inr (hclosing.imp_right .inl)) _
      | some n => exact closes_cons (.inr (.inr (.inr rfl))) _
  | cons item items =>
      obtain ⟨gap, hgap, _⟩ := exists_separator margin (depth + 1)
      rw [tail_cons, hgap]
      exact closes_cons (.inl rfl) _

theorem skipSpace_tail_nil (hclosing : isSpace closing = false) :
    skipSpace (tail margin depth closing [] ++ rest) = closing :: rest := by
  rw [tail, List.flatMap_nil, List.nil_append, List.append_assoc, skipSpace_lineBreak]
  exact List.dropWhile_cons_of_neg (by simp [hclosing])

variable (margin depth closing) in
theorem skipSpace_tail_cons (hitem : Opens item) : ∃ more,
    skipSpace (tail margin depth closing (item :: items) ++ rest) = ',' :: more ∧
      skipSpace more = item ++ (tail margin depth closing items ++ rest) := by
  obtain ⟨gap, hgap, hskip⟩ := exists_separator margin (depth + 1)
  refine ⟨gap ++ (item ++ (tail margin depth closing items ++ rest)), ?_, ?_⟩
  · rw [tail_cons, hgap]
    simp only [List.cons_append, List.append_assoc]
    exact List.dropWhile_cons_of_neg (by decide)
  · rw [hskip, skipSpace_opens hitem]

variable (margin depth closing) in
theorem length_tail_pos : 0 < (tail margin depth closing items).length := by
  rw [tail, List.length_append]
  exact Nat.lt_of_lt_of_le Nat.one_pos (Nat.le_add_left _ _)

/-! ## Values -/

/-- The names of members are text without halves, in code-point order. -/
structure NamesAscend (ms : List (Text × Json)) : Prop where
  chars : ∀ m ∈ ms, ∃ cs, m.1 = .ofChars cs
  ascend : ms.Pairwise fun m n => m.1 < n.1

/-- What canonical text is written from: text without halves, numbers that can be written, and
objects with their names in order. -/
inductive Canonical : Json → Prop
  | null : Canonical .null
  | truth (b : Bool) : Canonical (.truth b)
  | whole {n : Int} : isWritable n = true → Canonical (.whole n)
  | text (cs : List Char) : Canonical (.text (.ofChars cs))
  | array {js : List Json} : (∀ j ∈ js, Canonical j) → Canonical (.array js)
  | object {ms : List (Text × Json)} : NamesAscend ms → (∀ m ∈ ms, Canonical m.2) →
      Canonical (.object ms)

/-- The value is read back from its text, whatever follows. -/
def ReadBack (margin : Margin) (j : Json) : Prop :=
  ∀ depth fuel rest, (render margin depth j).length ≤ fuel → Closes rest →
    readValue fuel (render margin depth j ++ rest) = .ok (j, rest)

theorem opens_cons {c : Char} (hspace : isSpace c = false) (hbracket : c ≠ ']') (hbrace : c ≠ '\x7d')
    (cs : List Char) : Opens (c :: cs) := ⟨c, rfl, hspace, hbracket, hbrace⟩

theorem opens_enclose {opening : Char} (h : opening = '[' ∨ opening = '\x7b')
    (items : List (List Char)) : Opens (enclose margin depth opening closing items) := by
  cases items with
  | nil => rcases h with rfl | rfl <;> exact opens_cons (by decide) (by decide) (by decide) _
  | cons item items =>
      rw [enclose_cons]
      rcases h with rfl | rfl <;> exact opens_cons (by decide) (by decide) (by decide) _

theorem opens_intDigits (n : Int) : Opens (intDigits n) := by
  cases n with
  | ofNat n =>
      obtain ⟨c, cs, hcs, hc⟩ := exists_digits_cons n
      have hne : ∀ d : Char, isDigit d = false → c ≠ d := fun d => ne_of_isDigit hc
      rw [intDigits, hcs]
      refine opens_cons ?_ (hne _ rfl) (hne _ rfl) cs
      simp [isSpace, hne ' ' rfl, hne '\t' rfl, hne '\n' rfl, hne '\r' rfl]
  | negSucc n => exact opens_cons (by decide) (by decide) (by decide) _

theorem Canonical.opens {j : Json} (h : Canonical j) (margin : Margin) (depth : Nat) :
    Opens (render margin depth j) := by
  cases h with
  | null => exact opens_cons (by decide) (by decide) (by decide) _
  | truth b => cases b <;> exact opens_cons (by decide) (by decide) (by decide) _
  | whole _ => exact opens_intDigits _
  | text cs => exact opens_cons (by decide) (by decide) (by decide) _
  | array _ => exact opens_enclose (.inl rfl) _
  | object _ _ => exact opens_enclose (.inr rfl) _

/-! ## Steps of the reader -/

section

variable {fuel : Nat} {cs left more body : List Char} {j : Json} {done : List (Text × Json)}
  {name : Text}

theorem readItems_last (hj : readValue fuel cs = .ok (j, left)) (hleft : skipSpace left = ']' :: rest) :
    readItems (fuel + 1) cs = .ok ([j], rest) := by
  simp only [readItems, hj, Bind.bind, Except.bind, hleft]

theorem readItems_more {js : List Json} (hj : readValue fuel cs = .ok (j, left))
    (hleft : skipSpace left = ',' :: more) (hjs : readItems fuel (skipSpace more) = .ok (js, rest)) :
    readItems (fuel + 1) cs = .ok (j :: js, rest) := by
  simp only [readItems, hj, Bind.bind, Except.bind, hleft, hjs]

theorem readMembers_last (hname : readName cs = .ok (name, body))
    (hj : readValue fuel body = .ok (j, left)) (hleft : skipSpace left = '\x7d' :: rest) :
    readMembers (fuel + 1) done cs = .ok (bind name j done, rest) := by
  simp only [readMembers, hname, hj, Bind.bind, Except.bind, hleft]

theorem readMembers_more (hname : readName cs = .ok (name, body))
    (hj : readValue fuel body = .ok (j, left)) (hleft : skipSpace left = ',' :: more) :
    readMembers (fuel + 1) done cs = readMembers fuel (bind name j done) (skipSpace more) := by
  simp only [readMembers, hname, hj, Bind.bind, Except.bind, hleft]

theorem readValue_items (hskip : skipSpace cs = body) (hbody : Opens body) {js : List Json}
    (h : readItems fuel body = .ok (js, rest)) :
    readValue (fuel + 1) ('[' :: cs) = .ok (.array js, rest) := by
  obtain ⟨c, hc, _, hbracket, _⟩ := hbody
  obtain ⟨_, rfl⟩ := List.head?_eq_some_iff.1 hc
  rw [readValue.eq_2, hskip]
  split
  · rename_i heq
    exact absurd (List.cons.inj heq).1 hbracket
  · simp only [h, Bind.bind, Except.bind]

theorem readValue_members (hskip : skipSpace cs = body) (hbody : Opens body)
    {ms : List (Text × Json)} (h : readMembers fuel [] body = .ok (ms, rest)) :
    readValue (fuel + 1) ('\x7b' :: cs) = .ok (.object ms, rest) := by
  obtain ⟨c, hc, _, _, hbrace⟩ := hbody
  obtain ⟨_, rfl⟩ := List.head?_eq_some_iff.1 hc
  rw [readValue.eq_3, hskip]
  split
  · rename_i heq
    exact absurd (List.cons.inj heq).1 hbrace
  · simp only [h, Bind.bind, Except.bind]

theorem readName_string (ds : List Char) :
    readName (string (.ofChars ds) ++ ':' :: body) = .ok (.ofChars ds, skipSpace body) := by
  have hcolon : skipSpace (':' :: body) = ':' :: body := List.dropWhile_cons_of_neg (by decide)
  rw [string_ofChars, List.cons_append, List.append_assoc, List.singleton_append, readName,
    readString_string]
  simp only [Bind.bind, Except.bind, hcolon]

end

/-! ## Read back -/

variable (margin depth closing) in
theorem length_tail_cons : (item.length + (tail margin depth closing items).length) <
    (tail margin depth closing (item :: items)).length := by
  obtain ⟨gap, hgap, _⟩ := exists_separator margin (depth + 1)
  rw [tail_cons, hgap, List.length_append, List.length_append, List.length_cons]
  omega

/-- One step of the fuel is for the item itself, and it leaves enough for its value. -/
theorem ReadBack.step {j : Json} (h : ReadBack margin j) (hclosing : closing = ']' ∨ closing = '\x7d')
    {fuel : Nat} (hfuel : (render margin (depth + 1) j).length +
      (tail margin depth closing items).length ≤ fuel) : ∃ steps, fuel = steps + 1 ∧
        readValue steps (render margin (depth + 1) j ++ (tail margin depth closing items ++ rest)) =
          .ok (j, tail margin depth closing items ++ rest) := by
  have hpos := length_tail_pos margin depth closing items
  obtain ⟨steps, rfl⟩ := Nat.exists_eq_succ_of_ne_zero (show fuel ≠ 0 by omega)
  exact ⟨steps, rfl, h _ _ _ (by omega) (closes_tail _ _ hclosing)⟩

theorem readItems_render {j : Json} {js : List Json}
    (h : ∀ k ∈ j :: js, Canonical k ∧ ReadBack margin k) {fuel : Nat}
    (hfuel : (render margin (depth + 1) j).length +
      (tail margin depth ']' (renderItems margin (depth + 1) js)).length ≤ fuel) :
    readItems fuel (render margin (depth + 1) j ++
      (tail margin depth ']' (renderItems margin (depth + 1) js) ++ rest)) = .ok (j :: js, rest) := by
  obtain ⟨hj, hjs⟩ := List.forall_mem_cons.1 h
  induction js generalizing j fuel with
  | nil =>
      obtain ⟨steps, rfl, hvalue⟩ := hj.2.step _ rest (.inl rfl) hfuel
      exact readItems_last _ hvalue (skipSpace_tail_nil rest rfl)
  | cons k js ih =>
      obtain ⟨hk, hrest⟩ := List.forall_mem_cons.1 hjs
      obtain ⟨steps, rfl, hvalue⟩ := hj.2.step _ rest (.inl rfl) hfuel
      obtain ⟨more, hcomma, hmore⟩ := skipSpace_tail_cons margin depth ']' _
        (renderItems margin (depth + 1) js) rest (hk.1.opens margin (depth + 1))
      have hlength := length_tail_cons margin depth ']'
        (render margin (depth + 1) k) (renderItems margin (depth + 1) js)
      refine readItems_more _ hvalue hcomma ?_
      rw [hmore]
      refine ih hjs ?_ hk hrest
      rw [renderItems] at hfuel
      omega

theorem bind_of_fresh {name : Text} {done : List (Text × Json)} (h : ∀ m ∈ done, m.1 ≠ name)
    (j : Json) : bind name j done = done ++ [(name, j)] := by
  induction done with
  | nil => rfl
  | cons m done ih =>
      obtain ⟨hm, hdone⟩ := List.forall_mem_cons.1 h
      rw [bind, if_neg hm, ih hdone, List.cons_append]

/-- A member as it is written. -/
def member (margin : Margin) (depth : Nat) (m : Text × Json) : List Char :=
  string m.1 ++ ':' :: ' ' :: render margin depth m.2

theorem renderMembers_eq (ms : List (Text × Json)) :
    renderMembers margin depth ms = ms.map (member margin depth) := by
  induction ms with
  | nil => rfl
  | cons m ms ih => rw [renderMembers, ih, List.map_cons, member]

theorem opens_member (margin : Margin) (depth : Nat) (m : Text × Json) :
    Opens (member margin depth m) :=
  opens_cons (by decide) (by decide) (by decide) _

theorem readName_member {m : Text × Json} (hchars : ∃ cs, m.1 = .ofChars cs) (h : Canonical m.2) :
    readName (member margin depth m ++ rest) = .ok (m.1, render margin depth m.2 ++ rest) := by
  obtain ⟨cs, hcs⟩ := hchars
  have hblank : skipSpace (' ' :: (render margin depth m.2 ++ rest)) =
      render margin depth m.2 ++ rest := skipSpace_opens (h.opens margin depth) rest
  rw [member, hcs, List.append_assoc, List.cons_append, List.cons_append, readName_string, hblank]

/-- As for an item, behind the name. -/
theorem ReadBack.step_member {m : Text × Json} (hback : ReadBack margin m.2) (h : Canonical m.2)
    (hchars : ∃ cs, m.1 = .ofChars cs) {fuel : Nat}
    (hfuel : (member margin (depth + 1) m).length + (tail margin depth '\x7d' items).length ≤ fuel) :
    ∃ steps body, fuel = steps + 1 ∧
      readName (member margin (depth + 1) m ++ (tail margin depth '\x7d' items ++ rest)) =
        .ok (m.1, body) ∧
      readValue steps body = .ok (m.2, tail margin depth '\x7d' items ++ rest) := by
  have hlength : (render margin (depth + 1) m.2).length ≤ (member margin (depth + 1) m).length := by
    simp only [member, List.length_append, List.length_cons]
    omega
  obtain ⟨steps, hsteps, hvalue⟩ := hback.step items rest (.inr rfl)
    (Nat.le_trans (Nat.add_le_add_right hlength _) hfuel)
  exact ⟨steps, _, hsteps, readName_member _ hchars h, hvalue⟩

theorem readMembers_render {m : Text × Json} {ms done : List (Text × Json)}
    (hchars : ∀ n ∈ m :: ms, ∃ cs, n.1 = .ofChars cs)
    (hdistinct : (done ++ m :: ms).Pairwise fun m n => m.1 ≠ n.1)
    (h : ∀ n ∈ m :: ms, Canonical n.2 ∧ ReadBack margin n.2) {fuel : Nat}
    (hfuel : (member margin (depth + 1) m).length + (tail margin depth '\x7d'
      (ms.map (member margin (depth + 1)))).length ≤ fuel) :
    readMembers fuel done (member margin (depth + 1) m ++
      (tail margin depth '\x7d' (ms.map (member margin (depth + 1))) ++ rest)) =
        .ok (done ++ m :: ms, rest) := by
  induction ms generalizing m done fuel with
  | nil =>
      obtain ⟨hm, _⟩ := List.forall_mem_cons.1 h
      obtain ⟨steps, body, rfl, hname, hvalue⟩ :=
        hm.2.step_member [] rest hm.1 (hchars m List.mem_cons_self) hfuel
      have hfresh := (List.pairwise_append.1 hdistinct).2.2
      rw [List.map_nil, readMembers_last _ hname hvalue (skipSpace_tail_nil rest rfl),
        bind_of_fresh fun n hn => hfresh n hn m List.mem_cons_self]
  | cons k ms ih =>
      obtain ⟨hm, hms⟩ := List.forall_mem_cons.1 h
      obtain ⟨hmchars, hmschars⟩ := List.forall_mem_cons.1 hchars
      obtain ⟨steps, body, rfl, hname, hvalue⟩ := hm.2.step_member _ rest hm.1 hmchars hfuel
      obtain ⟨more, hcomma, hmore⟩ := skipSpace_tail_cons margin depth '\x7d' _
        (ms.map (member margin (depth + 1))) rest (opens_member _ _ k)
      have hlength := length_tail_cons margin depth '\x7d'
        (member margin (depth + 1) k) (ms.map (member margin (depth + 1)))
      have hfresh := (List.pairwise_append.1 hdistinct).2.2
      have happend : done ++ m :: k :: ms = done ++ [(m.1, m.2)] ++ k :: ms := by simp
      rw [readMembers_more hname hvalue hcomma, hmore,
        bind_of_fresh fun n hn => hfresh n hn m List.mem_cons_self, happend]
      refine ih hmschars (happend ▸ hdistinct) hms ?_
      rw [List.map_cons] at hfuel
      omega

theorem NamesAscend.distinct {ms : List (Text × Json)} (h : NamesAscend ms) :
    ms.Pairwise fun m n => m.1 ≠ n.1 := by
  refine h.ascend.imp fun {m n} hlt heq => ?_
  rw [heq] at hlt
  exact List.lt_irrefl n.1.codes hlt

/-- What is neither an array nor an object is read in one step. -/
theorem ReadBack.scalar {j : Json}
    (hhead : ∀ depth, ∃ c cs, render margin depth j = c :: cs ∧ c ≠ '[' ∧ c ≠ '\x7b')
    (h : ∀ depth rest, Closes rest →
      readScalar (render margin depth j ++ rest) = .ok (j, rest)) : ReadBack margin j := by
  intro depth fuel rest hfuel hrest
  obtain ⟨c, cs, hcs, hbracket, hbrace⟩ := hhead depth
  have hscalar := h depth rest hrest
  rw [hcs] at hfuel hscalar ⊢
  obtain ⟨fuel, rfl⟩ := Nat.exists_eq_succ_of_ne_zero
    (Nat.ne_of_gt (Nat.lt_of_lt_of_le (Nat.zero_lt_succ _) hfuel))
  rw [List.cons_append] at hscalar ⊢
  rw [readValue.eq_4]
  · exact hscalar
  · exact fun _ heq => hbracket (List.cons.inj heq).1
  · exact fun _ heq => hbrace (List.cons.inj heq).1

theorem exists_intDigits_cons (n : Int) :
    ∃ c cs, intDigits n = c :: cs ∧ c ≠ '[' ∧ c ≠ '\x7b' := by
  obtain ⟨c, cs, hcs⟩ := List.exists_cons_of_ne_nil (intDigits_ne_nil n)
  refine ⟨c, cs, hcs, ?_⟩
  rcases mem_intDigits (n := n) (hcs ▸ List.mem_cons_self) with hdigit | rfl
  · constructor <;> rintro rfl <;> exact absurd hdigit (by decide)
  · decide

theorem ReadBack.array {js : List Json} (h : ∀ j ∈ js, Canonical j ∧ ReadBack margin j) :
    ReadBack margin (.array js) := by
  intro depth fuel rest hfuel _
  cases js with
  | nil =>
      cases fuel with
      | zero => cases hfuel
      | succ fuel => rfl
  | cons j js =>
      obtain ⟨hj, _⟩ := List.forall_mem_cons.1 h
      rw [render, renderItems, enclose_cons, List.length_cons, List.length_append,
        List.length_append] at hfuel
      obtain ⟨fuel, rfl⟩ := Nat.exists_eq_succ_of_ne_zero (show fuel ≠ 0 by omega)
      have hopens := hj.1.opens margin (depth + 1)
      rw [render, renderItems, enclose_cons, List.cons_append, List.append_assoc, List.append_assoc]
      refine readValue_items _ ?_ (hopens.append _) (readItems_render _ h (by omega))
      rw [skipSpace_lineBreak, skipSpace_opens hopens]

theorem ReadBack.object {ms : List (Text × Json)} (hnames : NamesAscend ms)
    (h : ∀ m ∈ ms, Canonical m.2 ∧ ReadBack margin m.2) : ReadBack margin (.object ms) := by
  intro depth fuel rest hfuel _
  cases ms with
  | nil =>
      cases fuel with
      | zero => cases hfuel
      | succ fuel => rfl
  | cons m ms =>
      rw [render, renderMembers_eq, List.map_cons, enclose_cons, List.length_cons,
        List.length_append, List.length_append] at hfuel
      obtain ⟨fuel, rfl⟩ := Nat.exists_eq_succ_of_ne_zero (show fuel ≠ 0 by omega)
      have hopens := opens_member margin (depth + 1) m
      rw [render, renderMembers_eq, List.map_cons, enclose_cons, List.cons_append,
        List.append_assoc, List.append_assoc]
      refine readValue_members _ ?_ (hopens.append _)
        (readMembers_render _ hnames.chars hnames.distinct h (by omega))
      rw [skipSpace_lineBreak, skipSpace_opens hopens]

theorem Canonical.readBack {j : Json} (h : Canonical j) (margin : Margin) : ReadBack margin j := by
  induction h with
  | null => exact .scalar (fun _ => ⟨_, _, rfl, by decide, by decide⟩) fun _ _ _ => rfl
  | truth b =>
      cases b
      · exact .scalar (fun _ => ⟨_, _, rfl, by decide, by decide⟩) fun _ _ _ => rfl
      · exact .scalar (fun _ => ⟨_, _, rfl, by decide, by decide⟩) fun _ _ _ => rfl
  | @whole n hn =>
      exact .scalar (fun _ => exists_intDigits_cons n) fun _ rest hrest =>
        readScalar_intDigits hrest hn
  | text cs =>
      exact .scalar (fun _ => ⟨_, _, rfl, by decide, by decide⟩) fun _ rest _ =>
        readScalar_string cs rest
  | array hjs ih => exact .array fun j hj => ⟨hjs j hj, ih j hj⟩
  | object hnames hms ih => exact .object hnames fun m hm => ⟨hms m hm, ih m hm⟩

/-- What is written is read: a canonical value comes back whole from its text, whatever the margin,
and a line break behind it is nothing. -/
theorem read_render {j : Json} (h : Canonical j) (margin : Margin) :
    read (String.ofList (render margin 0 j ++ ['\n'])) = .ok j := by
  have hvalue := h.readBack margin 0 (2 * (render margin 0 j ++ ['\n']).length + 2) ['\n']
    (by rw [List.length_append]; omega) (closes_cons (by decide) [])
  rw [read, String.toList_ofList, skipSpace_opens (h.opens margin 0)]
  simp only [hvalue, Bind.bind, Except.bind]
  rfl

end DiagnosticCatalog.Json
