import Dialogue.Json.Reader
import Dialogue.Json.Writer
import Dialogue.Proofs.Table
import Dialogue.Proofs.Text.Numeral
import Mathlib.Data.List.Nodup

/-!
# JSON that is read back

A string that is written is read back, whatever characters it has: those outside printable ASCII are
written in code units, and two halves of a surrogate pair join again. So an object on one line, with
texts, numbers of a length that is read, and nulls under names that do not repeat, is read back
member by member.

* `hex_succ`, `codeUnit?_hex`: a code unit in four digits;
* `Stands`, `stands_escapeChar`: how a character is written;
* `OneLine`: a text that no line break can stand in, as all of these are;
* `readString_escapeChar`, **`readString_escaped`**: a text between quotes;
* `ReadsBack`: a value that is read back wherever it stands in a list or an object
  (`readsBack_null`, `readsBack_text`, `readsBack_natCast`);
* `readMembers_write`, **`read_write_ofFields`**: an object of such values.
-/

namespace Dialogue

open Text

/-! ## Hexadecimal digits -/

/-- The last digit stands for the remainder by sixteen, those before it for the quotient. -/
theorem Text.hex_succ {width : Nat} (hwidth : 0 < width) (n : Nat) :
    hex (width + 1) n = hex width (n / 16) ++ [(n % 16).digitChar] := by
  obtain ⟨k, rfl⟩ : ∃ k, width = k + 1 := ⟨width - 1, by omega⟩
  rcases Nat.lt_or_ge n 16 with hlt | hge
  · have hzero : n / 16 = 0 := Nat.div_eq_of_lt hlt
    rw [hex, hex, hzero, Nat.mod_eq_of_lt hlt, Nat.toDigits_of_lt_base hlt]
    simp [List.replicate_succ']
  · rw [hex, hex, Nat.toDigits_of_base_le (by decide) hge]
    simp

theorem Text.hex_one {n : Nat} (h : n < 16) : hex 1 n = [n.digitChar] := by
  rw [hex, Nat.toDigits_of_lt_base h]
  rfl

namespace Json

theorem hexValue?_digitChar {d : Nat} (h : d < 16) : hexValue? d.digitChar = some d := by
  revert d
  decide

theorem hex_four {n : Nat} (h : n < 0x10000) :
    hex 4 n = [(n / 16 / 16 / 16).digitChar, (n / 16 / 16 % 16).digitChar,
      (n / 16 % 16).digitChar, (n % 16).digitChar] := by
  rw [hex_succ (by decide), hex_succ (by decide), hex_succ (by decide), hex_one (by omega)]
  rfl

/-- **A code unit is read back** from its four digits. -/
theorem codeUnit?_hex {n : Nat} (h : n < 0x10000) :
    ∃ a b c d, hex 4 n = [a, b, c, d] ∧ codeUnit? a b c d = some n := by
  refine ⟨_, _, _, _, hex_four h, ?_⟩
  simp only [codeUnit?, hexValue?_digitChar (Nat.mod_lt _ (by decide : 0 < 16)),
    hexValue?_digitChar (show n / 16 / 16 / 16 < 16 by omega), Option.bind_eq_bind,
    Option.bind_some]
  exact congrArg some (by omega)

/-! ## Characters -/

/-- The ways in which a character stands in a JSON string. -/
inductive Stands (c : Char) : Text → Prop
  /-- Behind a backslash. -/
  | simple {d : Char} (hd : d ≠ 'u') (hc : simpleEscape? d = some c) (hlow : 0x20 ≤ d.toNat) :
      Stands c ['\\', d]
  /-- As it is. -/
  | plain (hquote : c ≠ '"') (hslash : c ≠ '\\') (hlow : 0x20 ≤ c.toNat) : Stands c [c]
  /-- As a code unit. -/
  | unit (h : c.toNat < 0x10000) : Stands c (unitEscape c.toNat)
  /-- As the two halves of a surrogate pair. -/
  | pair (h : 0x10000 ≤ c.toNat) :
      Stands c (unitEscape (0xd800 + (c.toNat - 0x10000) / 0x400) ++
        unitEscape (0xdc00 + (c.toNat - 0x10000) % 0x400))

theorem stands_escapeChar (c : Char) : Stands c (escapeChar c) := by
  unfold escapeChar
  split
  · rename_i h
    rcases h with rfl | rfl <;> exact .simple (by decide) rfl (by decide)
  split
  · subst_vars
    exact .simple (by decide) rfl (by decide)
  split
  · subst_vars
    exact .simple (by decide) rfl (by decide)
  split
  · subst_vars
    exact .simple (by decide) rfl (by decide)
  split
  · rename_i h
    obtain rfl : c = '\x08' := Char.toNat_inj.mp h
    exact .simple (by decide) rfl (by decide)
  split
  · rename_i h
    obtain rfl : c = '\x0c' := Char.toNat_inj.mp h
    exact .simple (by decide) rfl (by decide)
  split
  · rename_i hspecial _ _ _ _ _ hplain
    obtain ⟨hquote, hslash⟩ := not_or.mp hspecial
    exact .plain hquote hslash hplain.1
  split
  · rename_i hunit
    exact .unit hunit
  · rename_i hpair
    exact .pair (Nat.le_of_not_lt hpair)

/-! ## One line -/

/-- The text has no control characters, and so stands on one line. -/
def OneLine (t : Text) : Prop := ∀ c ∈ t, 0x20 ≤ c.toNat

instance (t : Text) : Decidable (OneLine t) :=
  List.decidableBAll (fun c : Char => 0x20 ≤ c.toNat) t

theorem OneLine.append {t u : Text} (ht : OneLine t) (hu : OneLine u) : OneLine (t ++ u) :=
  fun c hc => (List.mem_append.mp hc).elim (ht c) (hu c)

theorem OneLine.cons {c : Char} {t : Text} (hc : 0x20 ≤ c.toNat) (ht : OneLine t) :
    OneLine (c :: t) :=
  List.forall_mem_cons.mpr ⟨hc, ht⟩

theorem oneLine_unitEscape {n : Nat} (h : n < 0x10000) : OneLine (unitEscape n) := by
  have hdigit : ∀ d, d < 16 → 0x20 ≤ d.digitChar.toNat := by decide
  have hmod (m : Nat) : 0x20 ≤ (m % 16).digitChar.toNat := hdigit _ (Nat.mod_lt _ (by decide))
  rw [unitEscape, hex_four h]
  exact .cons (by decide) (.cons (by decide) (.cons (hdigit _ (by omega))
    (.cons (hmod _) (.cons (hmod _) (.cons (hmod _) nofun)))))

theorem toNat_valid (c : Char) : c.toNat < 0xd800 ∨ 0xdfff < c.toNat ∧ c.toNat < 0x110000 :=
  c.valid

theorem oneLine_escapeChar (c : Char) : OneLine (escapeChar c) := by
  have hvalid := toNat_valid c
  have hstands := stands_escapeChar c
  generalize escapeChar c = written at hstands ⊢
  cases hstands with
  | simple _ _ hlow => exact .cons (by decide) (.cons hlow nofun)
  | plain _ _ hlow => exact .cons hlow nofun
  | unit h => exact oneLine_unitEscape h
  | pair h => exact (oneLine_unitEscape (by omega)).append (oneLine_unitEscape (by omega))

theorem oneLine_quote (t : Text) : OneLine (quote t) := by
  refine .append (.cons (by decide) fun c hc => ?_) (by decide)
  obtain ⟨d, -, hd⟩ := List.mem_flatMap.mp hc
  exact oneLine_escapeChar d c hd

/-! ## Strings -/

theorem readString_escape {d e : Char} (hd : d ≠ 'u') (he : simpleEscape? d = some e) (s : Text) :
    readString ('\\' :: d :: s) = (readString s).map (·.push e) := by
  rw [readString.eq_def]
  simp only [if_neg (show '\\' ≠ '"' by decide), if_pos, if_neg hd, he]

theorem readString_unit {n : Nat} (h : n < 0x10000) (s : Text) :
    readString (unitEscape n ++ s) = (readString s).map (·.pushUnit n) := by
  obtain ⟨a, b, c, d, hdigits, hunit⟩ := codeUnit?_hex h
  rw [unitEscape, hdigits]
  rw [readString.eq_def]
  simp only [List.cons_append, List.nil_append, if_neg (show '\\' ≠ '"' by decide), if_pos, hunit]

theorem readString_plain {c : Char} (hquote : c ≠ '"') (hslash : c ≠ '\\') (hlow : 0x20 ≤ c.toNat)
    {s : Text} (hs : s ≠ []) : readString (c :: s) = (readString s).map (·.push c) := by
  obtain ⟨d, r, rfl⟩ := List.exists_cons_of_ne_nil hs
  rw [readString.eq_def]
  simp only [if_neg hquote, if_neg hslash, if_neg (Nat.not_lt.mpr hlow)]

/-- A code unit that is no half of a pair stays apart from the next one. -/
theorem joinUnit_of_not_high {n : Nat} (h : n < 0xd800 ∨ 0xdc00 ≤ n) (codes : Codes) :
    joinUnit n codes = n :: codes := by
  cases codes with
  | nil => rfl
  | cons m codes => exact if_neg (by omega)

/-- The two halves of a pair join to the character that they were made from. -/
theorem joinUnit_pair {n : Nat} (hlow : 0x10000 ≤ n) (hhigh : n < 0x110000) (codes : Codes) :
    joinUnit (0xd800 + (n - 0x10000) / 0x400)
      (joinUnit (0xdc00 + (n - 0x10000) % 0x400) codes) = n :: codes := by
  have hrest : joinUnit (0xdc00 + (n - 0x10000) % 0x400) codes =
      (0xdc00 + (n - 0x10000) % 0x400) :: codes := joinUnit_of_not_high (.inr (by omega)) codes
  have hjoined : 0x10000 + (0xd800 + (n - 0x10000) / 0x400 - 0xd800) * 0x400 +
      (0xdc00 + (n - 0x10000) % 0x400 - 0xdc00) = n := by omega
  rw [hrest, joinUnit, if_pos (by omega), hjoined]

/-- **A character is read back from what it is written as.** -/
theorem readString_escapeChar (c : Char) {s : Text} (hs : s ≠ []) :
    readString (escapeChar c ++ s) = (readString s).map (·.push c) := by
  have hvalid := toNat_valid c
  have hstands := stands_escapeChar c
  generalize escapeChar c = written at hstands ⊢
  cases hstands with
  | simple hd hc _ => exact readString_escape hd hc s
  | plain hquote hslash hlow => exact readString_plain hquote hslash hlow hs
  | unit h =>
    rw [readString_unit h]
    refine congrArg (Option.map · _) (funext fun u => ?_)
    rw [StringRest.pushUnit, joinUnit_of_not_high (by omega), StringRest.push]
  | pair h =>
    rw [List.append_assoc, readString_unit (by omega), readString_unit (by omega), Option.map_map]
    refine congrArg (Option.map · _) (funext fun u => ?_)
    simp only [Function.comp_apply, StringRest.pushUnit, StringRest.push,
      joinUnit_pair h (show c.toNat < 0x110000 by omega)]

/-- **A text between quotes is read back**, up to the closing quote. -/
theorem readString_escaped (t rest : Text) :
    readString (t.flatMap escapeChar ++ '"' :: rest) = some ⟨Codes.ofText t, rest⟩ := by
  induction t with
  | nil =>
    rw [List.flatMap_nil, List.nil_append, readString.eq_def]
    cases rest <;> rfl
  | cons c t ih =>
    have hne : t.flatMap escapeChar ++ '"' :: rest ≠ [] :=
      List.append_ne_nil_of_right_ne_nil _ (List.cons_ne_nil _ _)
    rw [List.flatMap_cons, List.append_assoc, readString_escapeChar c hne, ih]
    rfl

/-! ## Values -/

/-- The text goes on with what may stand behind an item of a list or a member of an object. -/
def Closes (rest : Text) : Prop := ∃ c r, rest = c :: r ∧ (c = ',' ∨ c = ']' ∨ c = '\x7d')

/-- The value is read back wherever it is written in a list or an object. -/
structure ReadsBack (v : Json) : Prop where
  /-- It does not open with a blank. -/
  skip_eq : ∀ rest, skip (v.write ++ rest) = v.write ++ rest
  readValue_eq : ∀ depth fuel rest, Closes rest →
    readValue depth (fuel + 1) (v.write ++ rest) = .ok (v, rest)
  oneLine : OneLine v.write

theorem readsBack_null : ReadsBack .null := ⟨fun _ => rfl, fun _ _ _ _ => rfl, by decide⟩

theorem readValue_quote {r : Text} {u : StringRest} (h : readString r = some u) (depth fuel : Nat) :
    readValue depth (fuel + 1) ('"' :: r) = .ok (ofCodes u.codes, u.rest) := by
  rw [readValue.eq_def]
  simp only [if_pos, h]

theorem quote_append (t rest : Text) :
    quote t ++ rest = '"' :: (t.flatMap escapeChar ++ '"' :: rest) := by
  simp only [quote, List.cons_append, List.append_assoc, List.nil_append]

theorem readsBack_text (t : Text) : ReadsBack (.text t) where
  skip_eq rest := by
    rw [write, quote_append]
    rfl
  readValue_eq depth fuel rest _ := by
    rw [write, quote_append, readValue_quote (readString_escaped t rest)]
    simp only [ofCodes, Codes.toText?_ofText]
  oneLine := by
    rw [write]
    exact oneLine_quote t

theorem Closes.readFraction_eq {rest : Text} (h : Closes rest) :
    readFraction rest = ([], rest) := by
  obtain ⟨c, r, rfl, rfl | rfl | rfl⟩ := h <;> rfl

theorem Closes.readExponent_eq {rest : Text} (h : Closes rest) :
    readExponent rest = (none, rest) := by
  obtain ⟨c, r, rfl, rfl | rfl | rfl⟩ := h <;> rfl

theorem Closes.takeWhile_eq {rest : Text} (h : Closes rest) :
    rest.takeWhile isAsciiDigit = [] := by
  obtain ⟨c, r, rfl, rfl | rfl | rfl⟩ := h <;> rfl

/-- The digits that a text opens with are read as a number, if it closes behind them. A zero is a
number for itself. -/
theorem readNumber_of_digits {t digits rest : Text} {n : Nat} (hne : digits ≠ [])
    (htake : t.takeWhile isAsciiDigit = digits) (hzero : (∃ ds, t = '0' :: ds) → digits = ['0'])
    (hdrop : t.drop digits.length = rest) (hrest : Closes rest) (hn : natural digits = .ok n) :
    readNumber false t = .ok (.int n, rest) := by
  have hnonempty : ¬ digits.isEmpty = true := mt List.isEmpty_iff.mp hne
  unfold readNumber
  split
  · rename_i ds
    rw [← hzero ⟨ds, rfl⟩]
    simp only [if_neg hnonempty, hdrop, hrest.readFraction_eq, hrest.readExponent_eq, hn]
    rfl
  · simp only [htake, if_neg hnonempty, hdrop, hrest.readFraction_eq, hrest.readExponent_eq, hn]
    rfl

/-- The digits of a number are read back, and no more than these. -/
theorem readNumber_toDigits {n : Nat} (hlength : (Nat.toDigits 10 n).length ≤ maxDigits)
    {rest : Text} (hrest : Closes rest) :
    readNumber false (Nat.toDigits 10 n ++ rest) = .ok (.int n, rest) := by
  have htake : (Nat.toDigits 10 n ++ rest).takeWhile isAsciiDigit = Nat.toDigits 10 n := by
    rw [List.takeWhile_append_of_pos fun _ => isAsciiDigit_of_mem_toDigits, hrest.takeWhile_eq,
      List.append_nil]
  have hzero : (∃ ds, Nat.toDigits 10 n ++ rest = '0' :: ds) → Nat.toDigits 10 n = ['0'] := by
    rintro ⟨ds, hopens⟩
    obtain ⟨d, ds', hcons⟩ := List.exists_cons_of_ne_nil (Nat.toDigits_ne_nil (b := 10) (n := n))
    rw [hcons, List.cons_append] at hopens
    obtain ⟨rfl, -⟩ := List.cons.inj hopens
    rw [eq_zero_of_toDigits hcons]
    rfl
  have hnatural : natural (Nat.toDigits 10 n) = .ok n := by
    rw [natural_of_length hlength, digitsValue_toDigits]
  exact readNumber_of_digits Nat.toDigits_ne_nil htake hzero List.drop_left hrest hnatural

theorem after?_eq_none {word : String} {w c : Char} {ws r : Text} (hword : word.toList = w :: ws)
    (hne : w ≠ c) : after? word (c :: r) = none := by
  rw [after?, hword, if_neg (by simp [hne])]

/-- What opens with a digit is read as a number. -/
theorem readValue_digit {c : Char} (hc : isAsciiDigit c = true) (depth fuel : Nat) (r : Text) :
    readValue depth (fuel + 1) (c :: r) = readNumber false (c :: r) := by
  have hne : ∀ d, isAsciiDigit d = false → d ≠ c := by
    rintro d hd rfl
    cases hc.symm.trans hd
  have hscalar : readScalar (c :: r) = readNumber false (c :: r) := by
    have hword : ∀ word : String, ∀ w ws, word.toList = w :: ws → isAsciiDigit w = false →
        after? word (c :: r) = none := fun word w ws hword hw => after?_eq_none hword (hne w hw)
    unfold readScalar
    rw [hword "null" _ _ rfl rfl, hword "true" _ _ rfl rfl, hword "false" _ _ rfl rfl,
      hword "NaN" _ _ rfl rfl, hword "Infinity" _ _ rfl rfl, hword "-Infinity" _ _ rfl rfl]
    dsimp only
    split
    · rename_i hminus
      exact absurd (List.cons.inj hminus).1.symm (hne '-' rfl)
    · rfl
  rw [readValue.eq_def]
  simp only [if_neg (hne '"' rfl).symm, if_neg (hne '[' rfl).symm, if_neg (hne '\x7b' rfl).symm,
    hscalar]

theorem isSpace_of_isAsciiDigit {c : Char} (hc : isAsciiDigit c = true) : isSpace c = false := by
  rw [Bool.eq_false_iff]
  intro hspace
  have hcases : c = ' ' ∨ c = '\t' ∨ c = '\n' ∨ c = '\r' := by
    simpa [isSpace, or_assoc] using hspace
  rcases hcases with rfl | rfl | rfl | rfl <;> cases hc

/-- **A number is read back** if it has no more digits than are read. -/
theorem readsBack_natCast {n : Nat} (hlength : (Nat.toDigits 10 n).length ≤ maxDigits) :
    ReadsBack (.int n) := by
  obtain ⟨d, ds, hcons⟩ := List.exists_cons_of_ne_nil (Nat.toDigits_ne_nil (b := 10) (n := n))
  have hd : isAsciiDigit d = true :=
    isAsciiDigit_of_mem_toDigits (n := n) (hcons ▸ List.mem_cons_self)
  have hwrite : (Json.int n).write = d :: ds := by rw [write, decimal_natCast, hcons]
  exact {
    skip_eq := by
      intro rest
      rw [hwrite, List.cons_append, skip,
        List.dropWhile_cons_of_neg (by simp [isSpace_of_isAsciiDigit hd])]
    readValue_eq := by
      intro depth fuel rest hrest
      rw [hwrite, List.cons_append, readValue_digit hd, ← List.cons_append, ← hcons,
        readNumber_toDigits hlength hrest]
    oneLine := by
      intro c hc
      rw [hwrite, ← hcons] at hc
      have hbounds : 48 ≤ c.toNat ∧ c.toNat ≤ 57 :=
        Char.isDigit_iff_toNat.mp (isAsciiDigit_of_mem_toDigits hc)
      omega }

/-! ## Objects -/

theorem quoteCodes_ofText (t : Text) : quoteCodes (Codes.ofText t) = quote t := by
  have hescape : (Codes.ofText t).flatMap escapeCode = t.flatMap escapeChar := by
    rw [Codes.ofText, List.flatMap_map]
    exact List.flatMap_congr fun c _ => by rw [escapeCode, Codes.char?_toNat]
  rw [quoteCodes, quote, hescape]

/-- The members of an object with names that are texts. -/
def named (fields : List (Text × Json)) : List (Codes × Json) :=
  fields.map fun f => (Codes.ofText f.1, f.2)

/-- The members of an object as they are written. -/
def memberText (fields : List (Text × Json)) : Text :=
  joinWith (ofString ", ") (writeMembers (named fields))

theorem memberText_singleton (f : Text × Json) :
    memberText [f] = quote f.1 ++ ofString ": " ++ f.2.write := by
  rw [← quoteCodes_ofText]
  rfl

theorem memberText_cons (f f' : Text × Json) (fields : List (Text × Json)) :
    memberText (f :: f' :: fields) =
      quote f.1 ++ ofString ": " ++ f.2.write ++ ofString ", " ++ memberText (f' :: fields) := by
  rw [← quoteCodes_ofText]
  rfl

theorem exists_memberText (f : Text × Json) (fields : List (Text × Json)) :
    ∃ r, memberText (f :: fields) = '"' :: r := by
  cases fields with
  | nil => exact ⟨_, memberText_singleton f⟩
  | cons f' fields => exact ⟨_, memberText_cons f f' fields⟩

/-- A member takes a character at least. -/
theorem length_le_memberText (fields : List (Text × Json)) :
    fields.length ≤ (memberText fields).length := by
  induction fields with
  | nil => exact Nat.zero_le _
  | cons f fields ih =>
    cases fields with
    | nil =>
      rw [memberText_singleton]
      simp [quote]
    | cons f' fields =>
      rw [memberText_cons, List.length_append, List.length_cons]
      simp only [quote, List.length_append, List.length_cons] at ih ⊢
      omega

theorem Closes.skip_eq {rest : Text} (h : Closes rest) : skip rest = rest := by
  obtain ⟨c, r, rfl, rfl | rfl | rfl⟩ := h <;> rfl

/-- A member that is read back, and what is done with what comes after it. -/
theorem readMembers_cons {depth fuel : Nat} {f : Text × Json} (hf : ReadsBack f.2) {c : Char}
    {r : Text} (hclose : Closes (c :: r)) :
    readMembers depth (fuel + 2) (quote f.1 ++ ofString ": " ++ f.2.write ++ c :: r) =
      if c = '\x7d' then .ok ([(Codes.ofText f.1, f.2)], r)
      else if c = ',' then (readMembers depth (fuel + 1) (skip r)).map fun (ms, rest) =>
        ((Codes.ofText f.1, f.2) :: ms, rest)
      else .error .malformed := by
  have hvalue : readValue depth (fuel + 1) (skip (' ' :: (f.2.write ++ c :: r))) =
      .ok (f.2, c :: r) := by
    have hblank (t : Text) : skip (' ' :: t) = skip t := rfl
    rw [hblank, hf.skip_eq, hf.readValue_eq depth fuel (c :: r) hclose]
  have hcolon : skip (':' :: ' ' :: (f.2.write ++ c :: r)) = ':' :: ' ' :: (f.2.write ++ c :: r) :=
    rfl
  have hwritten : quote f.1 ++ ofString ": " ++ f.2.write ++ c :: r =
      '"' :: (f.1.flatMap escapeChar ++ '"' :: ':' :: ' ' :: (f.2.write ++ c :: r)) := by
    rw [List.append_assoc, List.append_assoc, quote_append]
    rfl
  rw [hwritten, readMembers.eq_def]
  simp only [readString_escaped, hcolon, hvalue, hclose.skip_eq, if_neg (not_not.mpr rfl)]

/-- **The members of an object are read back.** -/
theorem readMembers_memberText {depth fuel : Nat} {fields : List (Text × Json)} (hne : fields ≠ [])
    (hfields : ∀ f ∈ fields, ReadsBack f.2) (hfuel : fields.length < fuel) (rest : Text) :
    readMembers depth fuel (memberText fields ++ '\x7d' :: rest) = .ok (named fields, rest) := by
  induction fields generalizing fuel with
  | nil => exact absurd rfl hne
  | cons f fields ih =>
    obtain ⟨hf, hlater⟩ := List.forall_mem_cons.mp hfields
    obtain ⟨k, rfl⟩ : ∃ k, fuel = k + 2 := ⟨fuel - 2, by rw [List.length_cons] at hfuel; omega⟩
    cases fields with
    | nil =>
      rw [memberText_singleton, readMembers_cons hf ⟨_, _, rfl, .inr (.inr rfl)⟩, if_pos rfl]
      rfl
    | cons f' fields =>
      have hseparated : memberText (f :: f' :: fields) ++ '\x7d' :: rest =
          quote f.1 ++ ofString ": " ++ f.2.write ++
            ',' :: ' ' :: (memberText (f' :: fields) ++ '\x7d' :: rest) := by
        rw [memberText_cons]
        simp [ofString]
      have hskip : skip (' ' :: (memberText (f' :: fields) ++ '\x7d' :: rest)) =
          memberText (f' :: fields) ++ '\x7d' :: rest := by
        obtain ⟨r, hr⟩ := exists_memberText f' fields
        rw [hr]
        rfl
      have hrest : readMembers depth (k + 1) (memberText (f' :: fields) ++ '\x7d' :: rest) =
          .ok (named (f' :: fields), rest) :=
        ih (List.cons_ne_nil _ _) hlater (by simpa using hfuel)
      rw [hseparated, readMembers_cons hf ⟨_, _, rfl, .inl rfl⟩, if_neg (by decide), if_pos rfl,
        hskip, hrest]
      rfl

theorem readValue_object {depth fuel : Nat} {r rest : Text} {members : List (Codes × Json)}
    (hskip : skip r = r) (hhead : r.head? ≠ some '\x7d')
    (h : readMembers depth fuel r = .ok (members, rest)) :
    readValue (depth + 1) (fuel + 1) ('\x7b' :: r) =
      .ok (.object (members.foldl (fun (t : Table Json Codes) m => t.put m.1 m.2) []), rest) := by
  rw [readValue.eq_def]
  simp only [if_neg (show '\x7b' ≠ '"' by decide), if_neg (show '\x7b' ≠ '[' by decide), if_pos,
    hskip, if_neg hhead, h]
  rfl

theorem keys_named_nodup {fields : List (Text × Json)} (h : (fields.map Prod.fst).Nodup) :
    Table.keys (named fields) |>.Nodup := by
  have hinjective : Function.Injective Codes.ofText := fun s t hst => by
    have hback := congrArg Codes.toText? hst
    rwa [Codes.toText?_ofText, Codes.toText?_ofText, Option.some.injEq] at hback
  have hkeys : Table.keys (named fields) = (fields.map Prod.fst).map Codes.ofText := by
    rw [Table.keys, named, List.map_map, List.map_map]
    rfl
  rw [hkeys]
  exact List.Nodup.map hinjective h

theorem write_ofFields (fields : List (Text × Json)) :
    (ofFields fields).write = '\x7b' :: (memberText fields ++ ['\x7d']) := by
  rw [ofFields, write]
  rfl

/-- **An object of such values is read back**, if no name is given twice. -/
theorem read_write_ofFields {fields : List (Text × Json)} (hne : fields ≠ [])
    (hfields : ∀ f ∈ fields, ReadsBack f.2) (hnames : (fields.map Prod.fst).Nodup) :
    read (ofFields fields).write = .ok (ofFields fields) := by
  obtain ⟨f, later, rfl⟩ := List.exists_cons_of_ne_nil hne
  obtain ⟨r, hr⟩ := exists_memberText f later
  have hopens : memberText (f :: later) ++ ['\x7d'] = '"' :: (r ++ ['\x7d']) := by
    rw [hr, List.cons_append]
  have hlength : (f :: later).length < (memberText (f :: later) ++ ['\x7d']).length + 1 := by
    have hle := length_le_memberText (f :: later)
    rw [List.length_append]
    omega
  have hmembers : readMembers 989 ((memberText (f :: later) ++ ['\x7d']).length + 1)
      (memberText (f :: later) ++ ['\x7d']) = .ok (named (f :: later), []) :=
    readMembers_memberText hne hfields hlength []
  have hvalue : readValue maxDepth ((memberText (f :: later) ++ ['\x7d']).length + 1 + 1)
      ('\x7b' :: (memberText (f :: later) ++ ['\x7d'])) = .ok (ofFields (f :: later), []) := by
    rw [maxDepth, readValue_object (by rw [hopens]; rfl) (by rw [hopens]; simp) hmembers,
      Table.foldl_put_append (keys_named_nodup hnames)]
    rfl
  have hskip : skip ('\x7b' :: (memberText (f :: later) ++ ['\x7d'])) =
      '\x7b' :: (memberText (f :: later) ++ ['\x7d']) := rfl
  rw [write_ofFields, read, hskip, List.length_cons, hvalue]
  rfl

theorem oneLine_memberText {fields : List (Text × Json)} (hfields : ∀ f ∈ fields, ReadsBack f.2) :
    OneLine (memberText fields) := by
  induction fields with
  | nil => exact nofun
  | cons f fields ih =>
    obtain ⟨hf, hlater⟩ := List.forall_mem_cons.mp hfields
    have hmember : OneLine (quote f.1 ++ ofString ": " ++ f.2.write) :=
      ((oneLine_quote f.1).append (by decide)).append hf.oneLine
    cases fields with
    | nil =>
      rw [memberText_singleton]
      exact hmember
    | cons f' fields =>
      rw [memberText_cons]
      exact (hmember.append (by decide)).append (ih hlater)

/-- Such an object stands on one line, which is not blank. -/
theorem oneLine_write_ofFields {fields : List (Text × Json)}
    (hfields : ∀ f ∈ fields, ReadsBack f.2) : OneLine (ofFields fields).write := by
  rw [write_ofFields]
  exact .cons (by decide) ((oneLine_memberText hfields).append (by decide))

end Json

end Dialogue
