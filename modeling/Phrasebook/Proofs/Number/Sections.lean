import Phrasebook.Proofs.Number.Sign
import Phrasebook.Proofs.Text.Lex

/-!
# Patterns with sections

A section is read like a pattern of its own: nothing in it looks past the semicolon behind it. So a
pattern of three sections writes a number as the pattern does that the sign of the number selects.
-/

namespace Phrasebook.Number

namespace Token

/-! ## Texts of sections -/

/-- The text of a section: every quote in it is closed, no backslash is the last character, and a
semicolon stands only in quotes and behind a backslash. -/
inductive IsSection : Text → Prop
  | nil : IsSection []
  | plain {c : Char} {s : Text} (hc : c ∉ ("\\'\";" : Text)) (hs : IsSection s) : IsSection (c :: s)
  | escaped {c : Char} {s : Text} (hs : IsSection s) : IsSection ('\\' :: c :: s)
  | quoted {q : Char} {row s : Text} (hq : q = '\'' ∨ q = '"') (hrow : q ∉ row)
      (hs : IsSection s) : IsSection (q :: (row ++ q :: s))

theorem IsSection.of_cons {c : Char} {s : Text} (hc : c ∉ ("\\'\";" : Text))
    (h : IsSection (c :: s)) : IsSection s := by
  cases h with
  | plain _ hs => exact hs
  | escaped hs => exact absurd (by decide) hc
  | quoted hq hrow hs => rcases hq with rfl | rfl <;> exact absurd (by decide) hc

theorem IsSection.drop_zeros {s : Text} (h : IsSection s) :
    IsSection (s.drop (s.takeWhile (· == '0')).length) := by
  induction s with
  | nil => exact h
  | cons c s ih =>
      by_cases hc : c = '0'
      · subst hc
        exact ih (h.of_cons (by decide))
      · simpa [hc] using h

theorem takeWhile_append_cons {α : Type} {p : α → Bool} {a : α} (ha : p a = false) (s t : List α) :
    (s ++ a :: t).takeWhile p = s.takeWhile p := by
  induction s with
  | nil => simp [ha]
  | cons b s ih => simp only [List.cons_append, List.takeWhile_cons, ih]

/-- How many characters the sign of an exponent takes. -/
def signCount (s : Text) : Nat := if s.head? = some '+' ∨ s.head? = some '-' then 1 else 0

theorem exponent?_eq (upper : Bool) (s : Text) :
    exponent? upper s =
      let width := ((s.drop (signCount s)).takeWhile (· == '0')).length
      if 0 < width then some (.exponent upper (s.head? == some '+') width, signCount s + width)
      else none := by
  unfold exponent? signCount
  split
  next signed count rest hread =>
    split at hread
    · obtain ⟨rfl, rfl, rfl⟩ := by simpa using hread
      simp
    · obtain ⟨rfl, rfl, rfl⟩ := by simpa using hread
      simp
    · next hplus hminus =>
        obtain ⟨rfl, rfl, rfl⟩ := by simpa using hread
        cases s with
        | nil => simp
        | cons c s =>
            have hc : (c == '+') = false := beq_false_of_ne fun h => hplus s (by rw [h])
            have hc' : c ≠ '-' := fun h => hminus s (by rw [h])
            simp [hc, ne_of_beq_false hc, hc']

/-- A semicolon is neither a sign nor a zero of an exponent. -/
theorem exponent?_append (upper : Bool) (s t : Text) :
    exponent? upper (s ++ ';' :: t) = exponent? upper s := by
  have hhead : signCount (s ++ ';' :: t) = signCount s ∧
      ((s ++ ';' :: t).head? == some '+') = (s.head? == some '+') := by
    cases s with
    | nil => exact ⟨rfl, rfl⟩
    | cons c s => exact ⟨rfl, rfl⟩
  have hcount : signCount s ≤ s.length := by
    unfold signCount
    cases s with
    | nil => simp
    | cons c s =>
        rw [List.length_cons]
        split <;> omega
  rw [exponent?_eq, exponent?_eq, hhead.1, hhead.2, List.drop_append_of_le_length hcount,
    takeWhile_append_cons rfl]

/-- An exponent takes a sign and zeros, so what it leaves is the text of a section. -/
theorem exponent?_spec {upper : Bool} {s : Text} (hs : IsSection s) {t : Token} {count : Nat}
    (h : exponent? upper s = some (t, count)) :
    t ≠ semicolon ∧ count ≤ s.length ∧ IsSection (s.drop count) := by
  have hsign : IsSection (s.drop (signCount s)) := by
    unfold signCount
    cases s with
    | nil => simpa using hs
    | cons c s =>
        split
        · next hc => exact hs.of_cons (by rcases hc with hc | hc <;> cases hc <;> decide)
        · exact hs
  rw [exponent?_eq] at h
  dsimp only at h
  split at h
  · next hwidth =>
      obtain ⟨rfl, rfl⟩ := by simpa using h
      have hlength := (List.takeWhile_prefix (l := s.drop (signCount s)) (· == '0')).length_le
      rw [List.length_drop] at hlength
      refine ⟨nofun, by omega, ?_⟩
      rw [← List.drop_drop]
      exact hsign.drop_zeros
  · cases h

/-- Of the characters outside of quotes only the letter of an exponent looks at what follows. -/
theorem exists_step_eq {c : Char} (hc : c ∉ ("\\'\";Ee" : Text)) :
    ∃ t ≠ semicolon, ∀ s, Token.step c s = (t, 0) := by
  by_cases hmark : c ∈ ("0#.,%‰" : Text)
  · have hcases : c = '0' ∨ c = '#' ∨ c = '.' ∨ c = ',' ∨ c = '%' ∨ c = '‰' := by simpa using hmark
    rcases hcases with rfl | rfl | rfl | rfl | rfl | rfl
    · exact ⟨zero, nofun, fun _ => rfl⟩
    · exact ⟨hash, nofun, fun _ => rfl⟩
    · exact ⟨point, nofun, fun _ => rfl⟩
    · exact ⟨comma, nofun, fun _ => rfl⟩
    · exact ⟨percent, nofun, fun _ => rfl⟩
    · exact ⟨perMille, nofun, fun _ => rfl⟩
  · have hother : ∀ d ∈ ("\\'\";Ee0#.,%‰" : Text), c ≠ d := by
      rintro d hd rfl
      exact (List.mem_append.1 (hd : c ∈ ("\\'\";Ee" : Text) ++ "0#.,%‰")).elim hc hmark
    refine ⟨literal [c], nofun, fun s => ?_⟩
    unfold Token.step
    split
    all_goals first | rfl | exact absurd rfl (hother _ (by decide))

/-- A text between quotes is one literal, whatever other characters it holds. -/
theorem step_quoted {q : Char} (hq : q = '\'' ∨ q = '"') {row : Text} (hrow : q ∉ row) (s : Text) :
    Token.step q (row ++ q :: s) = (literal row, row.length + 1) := by
  have htake : (row ++ q :: s).takeWhile (· != q) = row := by
    rw [takeWhile_append_cons (by simp), List.takeWhile_eq_self_iff]
    intro d hd
    simpa using fun heq : d = q => hrow (heq ▸ hd)
  rcases hq with rfl | rfl <;> simp [Token.step, htake]

/-- The first token of a section does not end it, is read without a look at the semicolon behind the
section, and leaves the text of a section. -/
theorem IsSection.step {c : Char} {s : Text} (h : IsSection (c :: s)) :
    (Token.step c s).1 ≠ semicolon ∧ (Token.step c s).2 ≤ s.length ∧
      IsSection (s.drop (Token.step c s).2) ∧
      ∀ t, Token.step c (s ++ ';' :: t) = Token.step c s := by
  cases h with
  | plain hc hs =>
      by_cases hletter : c = 'E' ∨ c = 'e'
      · have hrest : ∀ u, Token.step c u = (exponent? (c == 'E') u).getD (literal [c], 0) := by
          rcases hletter with rfl | rfl <;> exact fun _ => rfl
        simp only [hrest, exponent?_append]
        cases hread : exponent? (c == 'E') s with
        | none => exact ⟨nofun, Nat.zero_le _, hs, fun _ => trivial⟩
        | some read =>
            obtain ⟨hne, hcount, hnext⟩ := exponent?_spec hs hread
            exact ⟨hne, hcount, hnext, fun _ => trivial⟩
      · obtain ⟨t, hne, hstep⟩ := exists_step_eq (c := c) (by simp_all)
        simp only [hstep]
        exact ⟨hne, Nat.zero_le _, hs, fun _ => trivial⟩
  | @escaped c s hs =>
      exact ⟨nofun, by simp [Token.step], by simpa [Token.step] using hs, fun _ => rfl⟩
  | @quoted _ row s hq hrow hs =>
      rw [step_quoted hq hrow]
      refine ⟨nofun, by simp, ?_, fun t => ?_⟩
      · rw [← List.drop_drop, List.drop_left]
        exact hs
      · rw [List.append_assoc]
        exact step_quoted hq hrow _

/-! ## Tokens of sections -/

/-- The tokens of a section are those of its text. -/
theorem ofText_append {s : Text} (hs : IsSection s) (t : Text) :
    ofText (s ++ ';' :: t) = ofText s ++ semicolon :: ofText t := by
  have hsemicolon : ofText (';' :: t) = semicolon :: ofText t := ofText_cons rfl
  rw [← hsemicolon]
  refine Text.lex_append (fun c s hs => ?_) hs
  obtain ⟨-, hcount, hnext, hsame⟩ := hs.step
  exact ⟨hsame t, hcount, hnext⟩

theorem semicolon_notMem_ofText {s : Text} (hs : IsSection s) : semicolon ∉ ofText s := by
  intro hmem
  refine Text.forall_mem_lex (Q := (· ≠ semicolon)) (fun c s hs => ?_) hs _ hmem rfl
  exact ⟨hs.step.1, hs.step.2.2.1⟩

theorem sections_append {ts : List Token} (hts : semicolon ∉ ts) (us : List Token) :
    sections (ts ++ semicolon :: us) = ts :: sections us := by
  induction ts with
  | nil => simp [sections]
  | cons t ts ih =>
      simp only [List.mem_cons, not_or] at hts
      simp [sections, Ne.symm hts.1, ih hts.2]

end Token

open Token

/-! ## The section for a number -/

theorem custom?_of_isSection {s : Text} (hs : IsSection s) (culture : Culture) (n : Number) :
    custom? culture s n = formatSection? culture (ofText s) n true := by
  rw [custom?, choose_of_notMem (semicolon_notMem_ofText hs)]

theorem isNegative_abs (n : Number) : n.abs.isNegative = false := by
  match n with
  | integer i => exact decide_eq_false (not_lt.2 (Int.natCast_nonneg i.natAbs))
  | float .nan => rfl
  | float (.infinite _) => rfl
  | float (.finite _) => rfl

theorem isNegative_of_isZero {n : Number} (hn : n.isZero = true) : n.isNegative = false := by
  match n with
  | integer i => exact decide_eq_false (by simp [beq_iff_eq.1 hn])
  | float .nan => rfl
  | float (.infinite _) => cases hn
  | float (.finite x) =>
      have hzero : x.magnitude.isZero = true := hn
      simp [isNegative, Binary64.isNegative, hzero]

/-- What follows the third section of a pattern is not read. -/
theorem custom?_of_sections {culture : Culture} {pattern : Text} {first second third : List Token}
    {rest : List (List Token)}
    (h : sections (ofText pattern) = first :: second :: third :: rest) (n : Number) :
    custom? culture pattern n =
      if n.isNegative ∧ second ≠ [] then formatSection? culture second n.abs true
      else if n.isZero ∧ third ≠ [] then formatSection? culture third n true
      else formatSection? culture first n true := by
  simp only [custom?, choose, h, List.getElem?_cons_succ, List.getElem?_cons_zero, Option.getD_some,
    List.headD_cons]
  split
  · exact formatSection?_of_isNegative (isNegative_abs n) culture second false
  · split
    · next hzero =>
        exact formatSection?_of_isNegative (isNegative_of_isZero hzero.1) culture third false
    · rfl

/-- A pattern of three sections writes a negative number as its second section writes the magnitude,
zero as its third one does, and every other number as its first one does, which stands in for an
empty section as well. A further section changes nothing. The integer
`-2 ^ 127` is not meant, as its magnitude does not fit 128 bits. -/
theorem custom?_sections (culture : Culture) {a b c : Text} (ha : IsSection a) (hb : IsSection b)
    (hc : IsSection c) (n : Number) :
    custom? culture (a ++ ';' :: (b ++ ';' :: c)) n =
      (if n.isNegative ∧ b ≠ [] then custom? culture b n.abs
        else if n.isZero ∧ c ≠ [] then custom? culture c n
        else custom? culture a n) ∧
    ∀ d, custom? culture (a ++ ';' :: (b ++ ';' :: (c ++ ';' :: d))) n =
      custom? culture (a ++ ';' :: (b ++ ';' :: c)) n := by
  have hnil : ∀ s, ofText s ≠ [] ↔ s ≠ [] := fun s => not_congr Text.lex_eq_nil_iff
  have hthree : sections (ofText (a ++ ';' :: (b ++ ';' :: c))) =
      [ofText a, ofText b, ofText c] := by
    rw [ofText_append ha, sections_append (semicolon_notMem_ofText ha), ofText_append hb,
      sections_append (semicolon_notMem_ofText hb), sections_of_notMem (semicolon_notMem_ofText hc)]
  have hmore : ∀ d, sections (ofText (a ++ ';' :: (b ++ ';' :: (c ++ ';' :: d)))) =
      ofText a :: ofText b :: ofText c :: sections (ofText d) := by
    intro d
    rw [ofText_append ha, sections_append (semicolon_notMem_ofText ha), ofText_append hb,
      sections_append (semicolon_notMem_ofText hb), ofText_append hc,
      sections_append (semicolon_notMem_ofText hc)]
  refine ⟨?_, fun d => ?_⟩
  · rw [custom?_of_sections hthree, custom?_of_isSection ha, custom?_of_isSection hb,
      custom?_of_isSection hc]
    simp only [hnil]
  · rw [custom?_of_sections (hmore d), custom?_of_sections hthree]

/-- A semicolon in quotes or behind a backslash is text of its section. -/
theorem custom?_sections_quoted :
    IsSection "0.0" ∧ IsSection "\\;#,0" ∧ IsSection "'nil; '0" ∧
      custom? .invariant "0.0;\\;#,0;'nil; '0" (integer (-1200)) = some ";1,200" ∧
      custom? .invariant "0.0;\\;#,0;'nil; '0" (integer 0) = some "nil; 0" ∧
      custom? .invariant "0.0;\\;#,0;'nil; '0;0000" (integer 7) = some "7.0" := by
  have hfirst : IsSection "0.0" :=
    .plain (by decide) (.plain (by decide) (.plain (by decide) .nil))
  have hsecond : IsSection "\\;#,0" :=
    .escaped (.plain (by decide) (.plain (by decide) (.plain (by decide) .nil)))
  have hthird : IsSection "'nil; '0" :=
    @IsSection.quoted '\'' "nil; " "0" (.inl rfl) (by decide) (.plain (by decide) .nil)
  have hlaw := custom?_sections .invariant hfirst hsecond hthird
  refine ⟨hfirst, hsecond, hthird, ?_, ?_, ?_⟩
  · exact (hlaw (integer (-1200))).1.trans (by decide)
  · exact (hlaw (integer 0)).1.trans (by decide)
  · exact ((hlaw (integer 7)).2 "0000").trans ((hlaw (integer 7)).1.trans (by decide))

end Phrasebook.Number
