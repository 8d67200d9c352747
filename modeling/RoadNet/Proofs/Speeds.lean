import RoadNet.Proofs.FloatText

/-!
# RoadNet.Proofs.Speeds

The texts that are read as speeds, and the speeds they are read as (`velocity?_grammar`).

* `SpeedText` — the grammar: white space, a number, white space, a unit, white space;
* `spanNumber_numberText`, `numberText_of_spanNumber` — the number at the start of a text;
* `velocity?_of_speedText`, `speedText_of_velocity?` — what is read are the texts of the grammar.
-/

namespace RoadNet

namespace Attribute

open Text

/-! ## The grammar -/

/-- The units of speed. -/
inductive SpeedUnit where
  /-- No unit is written. -/
  | bare
  | kilometresPerHour
  | milesPerHour
  | metresPerSecond

namespace SpeedUnit

/-- How a unit may be written. -/
def spellings : SpeedUnit → List String
  | bare => [""]
  | kilometresPerHour => ["km/h", "kmh", "kph"]
  | milesPerHour => ["mph"]
  | metresPerSecond => ["m/s", "mps"]

/-- The factor of a unit to kilometres per hour. -/
def factor : SpeedUnit → Float
  | bare => 1.0
  | kilometresPerHour => 1.0
  | milesPerHour => 1.609344
  | metresPerSecond => 3.6

end SpeedUnit

/-- A number as it is written in the digits of the class `digit`: one or more of them, and perhaps a
point and one or more of them. -/
inductive NumberText (digit : Char → Prop) : List Char → List Char → List Char → Prop where
  | whole {whole : List Char} (hne : whole ≠ []) (hwhole : ∀ c ∈ whole, digit c) :
      NumberText digit whole [] whole
  | point {whole frac : List Char} (hne : whole ≠ []) (hwhole : ∀ c ∈ whole, digit c)
      (hfrac : ∀ c ∈ frac, digit c) (hne' : frac ≠ []) :
      NumberText digit whole frac (whole ++ '.' :: frac)

/-- A speed as it is written in the digits of the class `digit`: white space, a `NumberText`, white
space, a spelling of the unit, white space. -/
inductive SpeedText (digit : Char → Prop) (whole frac : List Char) (unit : SpeedUnit) :
    List Char → Prop where
  | intro {before number gap after : List Char} {spelling : String}
      (hbefore : ∀ c ∈ before, isBlank c = true) (hnumber : NumberText digit whole frac number)
      (hgap : ∀ c ∈ gap, isBlank c = true) (hspelling : spelling ∈ unit.spellings)
      (hafter : ∀ c ∈ after, isBlank c = true) :
      SpeedText digit whole frac unit (before ++ (number ++ (gap ++ (spelling.toList ++ after))))

/-- The number that digits before and behind a point denote. -/
def numberOf (whole frac : List Char) : Decimal :=
  ⟨ofDigits (whole ++ frac), -(frac.length : Int)⟩

/-- The digits of ASCII. -/
abbrev Digit (c : Char) : Prop := c.isDigit = true

variable {digit digit' : Char → Prop} {whole frac number cs : List Char} {unit : SpeedUnit}

/-- The digits of a `NumberText` are of its class. -/
theorem NumberText.digits (h : NumberText digit whole frac number) :
    ∀ c ∈ whole ++ frac, digit c := by
  cases h with
  | whole _ hwhole => rwa [List.append_nil]
  | point _ hwhole hfrac _ => exact fun c hc => (List.mem_append.1 hc).elim (hwhole c) (hfrac c)

/-- A `NumberText` in the digits of a class is one in those of a larger class. -/
theorem NumberText.mono (h : NumberText digit whole frac number) (hle : ∀ c, digit c → digit' c) :
    NumberText digit' whole frac number := by
  cases h with
  | whole hne hwhole => exact .whole hne fun c hc => hle c (hwhole c hc)
  | point hne hwhole hfrac hne' =>
    exact .point hne (fun c hc => hle c (hwhole c hc)) (fun c hc => hle c (hfrac c hc)) hne'

/-- The digits of a `SpeedText` are of its class. -/
theorem SpeedText.digits (h : SpeedText digit whole frac unit cs) :
    ∀ c ∈ whole ++ frac, digit c := by
  cases h with
  | intro _ hnumber _ _ _ => exact hnumber.digits

/-- A `SpeedText` in the digits of a class is one in those of a larger class. -/
theorem SpeedText.mono (h : SpeedText digit whole frac unit cs) (hle : ∀ c, digit c → digit' c) :
    SpeedText digit' whole frac unit cs := by
  cases h with
  | intro hbefore hnumber hgap hspelling hafter =>
    exact .intro hbefore (hnumber.mono hle) hgap hspelling hafter

/-! ## White space -/

theorem dropWhile_append {p : Char → Bool} {xs rest : List Char} (hxs : ∀ c ∈ xs, p c = true)
    (hrest : ∀ c ∈ rest.head?, p c = false) : (xs ++ rest).dropWhile p = rest := by
  have hspan := span_append hxs hrest
  rw [List.span_eq_takeWhile_dropWhile] at hspan
  exact (Prod.mk.inj hspan).2

/-- `trim` takes white space off around a text without any. -/
theorem trim_of_blanks {before after : List Char} (hbefore : ∀ c ∈ before, isBlank c = true)
    (hcs : ∀ c ∈ cs, isBlank c = false) (hafter : ∀ c ∈ after, isBlank c = true) :
    trim (before ++ (cs ++ after)) = cs := by
  cases cs with
  | nil =>
    have hblank : ∀ c ∈ before ++ after, isBlank c = true := fun c hc =>
      (List.mem_append.1 hc).elim (hbefore c) (hafter c)
    rw [List.nil_append, trim, trimStart, List.dropWhile_eq_nil_iff.2 hblank]
    rfl
  | cons c rest =>
    have hhead : ∀ d ∈ (c :: rest ++ after).head?, isBlank d = false := by
      intro d hd
      obtain rfl : c = d := Option.some.inj hd
      exact hcs c List.mem_cons_self
    have hlast : ∀ d ∈ (c :: rest).reverse.head?, isBlank d = false := fun d hd =>
      hcs d (List.mem_reverse.1 (List.mem_of_mem_head? hd))
    have hend : ∀ d ∈ after.reverse, isBlank d = true := fun d hd =>
      hafter d (List.mem_reverse.1 hd)
    rw [trim, trimStart, dropWhile_append hbefore hhead, trimEnd, List.reverse_append,
      dropWhile_append hend hlast, List.reverse_reverse]

/-- What `trim` takes off a text is white space. -/
theorem exists_of_trim (cs : List Char) :
    ∃ before after, cs = before ++ (trim cs ++ after) ∧ (∀ c ∈ before, isBlank c = true) ∧
      ∀ c ∈ after, isBlank c = true := by
  refine ⟨cs.takeWhile isBlank, ((trimStart cs).reverse.takeWhile isBlank).reverse, ?_,
    fun c hc => List.mem_takeWhile_imp hc,
    fun c hc => List.mem_takeWhile_imp (List.mem_reverse.1 hc)⟩
  rw [trim, trimEnd, ← List.reverse_append, List.takeWhile_append_dropWhile, List.reverse_reverse,
    trimStart, List.takeWhile_append_dropWhile]

/-! ## Numbers -/

theorem head?_isDigit (h : NumberText Digit whole frac number) (rest : List Char) :
    ∀ c ∈ (number ++ rest).head?, c.isDigit = true := by
  intro c hc
  cases h with
  | whole hne hwhole =>
    rw [List.head?_append_of_ne_nil _ hne] at hc
    exact hwhole c (List.mem_of_mem_head? hc)
  | point hne hwhole _ _ =>
    rw [List.append_assoc, List.head?_append_of_ne_nil _ hne] at hc
    exact hwhole c (List.mem_of_mem_head? hc)

/-- `spanNumber` takes a `NumberText` off, up to where no digit and no point follows. -/
theorem spanNumber_numberText (h : NumberText Digit whole frac number) {rest : List Char}
    (hrest : ∀ c ∈ rest.head?, c.isDigit = false ∧ c ≠ '.') :
    spanNumber (number ++ rest) = (number, rest) := by
  have hstop : ∀ c ∈ rest.head?, c.isDigit = false := fun c hc => (hrest c hc).1
  cases h with
  | whole hne hwhole =>
    rw [spanNumber, spanDigits_append hwhole hstop]
    dsimp only
    split
    next r => exact absurd rfl (hrest '.' rfl).2
    next => rfl
  | point hne hwhole hfrac hne' =>
    obtain ⟨c, whole, rfl⟩ := List.exists_cons_of_ne_nil hne
    have hpoint : ∀ d ∈ ('.' :: frac ++ rest).head?, d.isDigit = false := by
      intro d hd
      obtain rfl : '.' = d := Option.some.inj hd
      decide
    rw [List.append_assoc, spanNumber, spanDigits_append hwhole hpoint]
    change (if (spanDigits (frac ++ rest)).1.isEmpty = true then (c :: whole, '.' :: frac ++ rest)
      else (c :: whole ++ '.' :: (spanDigits (frac ++ rest)).1, (spanDigits (frac ++ rest)).2)) = _
    rw [spanDigits_append hfrac hstop]
    dsimp only
    rw [if_neg (by simpa using hne')]

theorem append_of_spanDigits {rest : List Char} (h : spanDigits cs = (whole, rest)) :
    cs = whole ++ rest ∧ ∀ c ∈ whole, c.isDigit = true := by
  rw [spanDigits, List.span_eq_takeWhile_dropWhile, Prod.mk.injEq] at h
  obtain ⟨rfl, rfl⟩ := h
  exact ⟨List.takeWhile_append_dropWhile.symm, fun c hc => List.mem_takeWhile_imp hc⟩

/-- What `spanNumber` takes off the start of a text is a `NumberText`, or nothing. -/
theorem numberText_of_spanNumber {rest : List Char} (h : spanNumber cs = (number, rest)) :
    cs = number ++ rest ∧ (number ≠ [] → ∃ whole frac, NumberText Digit whole frac number) := by
  rw [spanNumber] at h
  rcases hspan : spanDigits cs with ⟨whole, behind⟩
  obtain ⟨rfl, hwhole⟩ := append_of_spanDigits hspan
  rw [hspan] at h
  dsimp only at h
  split at h
  next c whole r =>
    rcases hspan' : spanDigits r with ⟨frac, after⟩
    obtain ⟨rfl, hfrac⟩ := append_of_spanDigits hspan'
    rw [hspan'] at h
    dsimp only at h
    split at h
    next =>
      obtain ⟨rfl, rfl⟩ := Prod.mk.inj h
      exact ⟨rfl, fun hne => ⟨_, _, .whole hne hwhole⟩⟩
    next hne' =>
      obtain ⟨rfl, rfl⟩ := Prod.mk.inj h
      refine ⟨by simp, fun _ => ⟨_, _, .point (List.cons_ne_nil _ _) hwhole hfrac ?_⟩⟩
      simpa using hne'
  next =>
    obtain ⟨rfl, rfl⟩ := Prod.mk.inj h
    exact ⟨rfl, fun hne => ⟨_, _, .whole hne hwhole⟩⟩

/-- `readFloat?` reads a `NumberText` as the float nearest to its number. -/
theorem readFloat?_numberText (h : NumberText Digit whole frac number) :
    readFloat? number = some ((numberOf whole frac).toBinary64 false).toFloat := by
  have hhead := head?_isDigit h []
  rw [List.append_nil] at hhead
  have hread : Decimal.read? number = some (numberOf whole frac) := by
    cases h with
    | whole hne hwhole =>
      rw [Decimal.read?_whole hwhole hne, numberOf, List.append_nil]
      rfl
    | point hne hwhole hfrac _ => exact Decimal.read?_point hwhole hfrac hne
  have hbare := readFloat?_signText false hhead
  rwa [hread] at hbare

/-! ## Units -/

/-- A unit is found in `speedUnits` under its `spellings`, with its `factor`. -/
theorem lookup_speedUnits {spelling : String} {x : Float} :
    speedUnits.lookup spelling = some x ↔
      ∃ unit : SpeedUnit, spelling ∈ unit.spellings ∧ x = unit.factor := by
  constructor
  · intro h
    obtain ⟨before, after, hsplit, -⟩ := List.lookup_eq_some_iff.1 h
    have hmem : (spelling, x) ∈ speedUnits :=
      hsplit ▸ List.mem_append_right before List.mem_cons_self
    simp only [speedUnits, List.mem_cons, List.not_mem_nil, or_false, Prod.mk.injEq] at hmem
    rcases hmem with ⟨rfl, rfl⟩ | ⟨rfl, rfl⟩ | ⟨rfl, rfl⟩ | ⟨rfl, rfl⟩ | ⟨rfl, rfl⟩ | ⟨rfl, rfl⟩ |
      ⟨rfl, rfl⟩
    · exact ⟨.bare, by decide, rfl⟩
    · exact ⟨.kilometresPerHour, by decide, rfl⟩
    · exact ⟨.kilometresPerHour, by decide, rfl⟩
    · exact ⟨.kilometresPerHour, by decide, rfl⟩
    · exact ⟨.milesPerHour, by decide, rfl⟩
    · exact ⟨.metresPerSecond, by decide, rfl⟩
    · exact ⟨.metresPerSecond, by decide, rfl⟩
  · rintro ⟨unit, hspelling, rfl⟩
    cases unit <;> simp only [SpeedUnit.spellings, List.mem_cons, List.not_mem_nil, or_false]
      at hspelling
    case bare => exact hspelling ▸ rfl
    case kilometresPerHour => rcases hspelling with rfl | rfl | rfl <;> rfl
    case milesPerHour => exact hspelling ▸ rfl
    case metresPerSecond => rcases hspelling with rfl | rfl <;> rfl

/-- The characters of units. -/
def unitChars : List Char := ['/', 'h', 'k', 'm', 'p', 's']

/-- The spellings of units are made of `unitChars`. -/
theorem mem_unitChars {spelling : String} (h : spelling ∈ unit.spellings) :
    ∀ c ∈ spelling.toList, c ∈ unitChars := by
  have hall : ∀ unit : SpeedUnit,
      unit.spellings.all (fun s => s.toList.all fun c => c ∈ unitChars) = true := by
    intro unit
    cases unit <;> decide
  have hspelling := List.all_eq_true.1 (List.all_eq_true.1 (hall unit) spelling h)
  exact fun c hc => of_decide_eq_true (hspelling c hc)

/-- None of the `unitChars` is white space, a digit or a point. -/
theorem not_blank_of_mem_unitChars {c : Char} (h : c ∈ unitChars) :
    isBlank c = false ∧ c.isDigit = false ∧ c ≠ '.' := by
  simp only [unitChars, List.mem_cons, List.not_mem_nil, or_false] at h
  rcases h with rfl | rfl | rfl | rfl | rfl | rfl <;> decide

theorem not_digit_of_isBlank {c : Char} (h : isBlank c = true) : c.isDigit = false ∧ c ≠ '.' := by
  constructor
  · refine Bool.eq_false_iff.2 fun hdigit => ?_
    rw [isBlank_of_isDigit hdigit] at h
    cases h
  · rintro rfl
    exact absurd h (by decide)

/-! ## Speeds -/

/-- `velocity?` reads every `SpeedText` in ASCII digits. -/
theorem velocity?_of_speedText {value : String}
    (h : SpeedText Digit whole frac unit value.toList) :
    velocity? value =
      some (((numberOf whole frac).toBinary64 false).toFloat * unit.factor) := by
  generalize hcs : value.toList = cs at h
  cases h with
  | @intro before number gap after spelling hbefore hnumber hgap hspelling hafter =>
    have hunit := fun c hc => not_blank_of_mem_unitChars (mem_unitChars hspelling c hc)
    have hstart : ∀ c ∈ (number ++ (gap ++ (spelling.toList ++ after))).head?, isBlank c = false :=
      fun c hc => isBlank_of_isDigit (head?_isDigit hnumber _ c hc)
    have hrest : ∀ c ∈ (gap ++ (spelling.toList ++ after)).head?,
        c.isDigit = false ∧ c ≠ '.' := by
      intro c hc
      have hmem := List.mem_of_mem_head? hc
      rw [List.mem_append, List.mem_append] at hmem
      rcases hmem with hmem | hmem | hmem
      · exact not_digit_of_isBlank (hgap c hmem)
      · exact (hunit c hmem).2
      · exact not_digit_of_isBlank (hafter c hmem)
    have hlookup : speedUnits.lookup spelling = some unit.factor :=
      lookup_speedUnits.2 ⟨unit, hspelling, rfl⟩
    rw [velocity?, hcs, trimStart, dropWhile_append hbefore hstart,
      spanNumber_numberText hnumber hrest]
    dsimp only
    rw [readFloat?_numberText hnumber, trim_of_blanks hgap (fun c hc => (hunit c hc).1) hafter,
      String.ofList_toList, hlookup]
    rfl

/-- What `velocity?` reads is a `SpeedText` in ASCII digits. -/
theorem speedText_of_velocity? {value : String} {x : Float} (h : velocity? value = some x) :
    ∃ whole frac unit, SpeedText Digit whole frac unit value.toList := by
  rw [velocity?] at h
  rcases hspan : spanNumber (trimStart value.toList) with ⟨number, rest⟩
  rw [hspan] at h
  obtain ⟨magnitude, hmagnitude, h⟩ := Option.bind_eq_some_iff.1 h
  obtain ⟨factor, hfactor, -⟩ := Option.bind_eq_some_iff.1 h
  obtain ⟨hsplit, hnumber⟩ := numberText_of_spanNumber hspan
  have hne : number ≠ [] := by
    rintro rfl
    cases hmagnitude
  obtain ⟨whole, frac, hnumber⟩ := hnumber hne
  obtain ⟨unit, hspelling, -⟩ := lookup_speedUnits.1 hfactor
  obtain ⟨gap, after, hrest, hgap, hafter⟩ := exists_of_trim rest
  have hvalue : value.toList = value.toList.takeWhile isBlank ++
      (number ++ (gap ++ ((String.ofList (trim rest)).toList ++ after))) := by
    rw [String.toList_ofList, ← hrest, ← hsplit, trimStart, List.takeWhile_append_dropWhile]
  refine ⟨whole, frac, unit, ?_⟩
  rw [hvalue]
  exact .intro (fun c hc => List.mem_takeWhile_imp hc) hnumber hgap hspelling hafter

/-- A character of a `SpeedText` that no other part can hold is one of its digits. -/
theorem SpeedText.mem_of_mem (h : SpeedText digit whole frac unit cs) {c : Char} (hc : c ∈ cs)
    (hblank : isBlank c = false) (hother : c ∉ '.' :: unitChars) : c ∈ whole ++ frac := by
  have hnot : ∀ {space : List Char}, (∀ c ∈ space, isBlank c = true) → c ∉ space := by
    intro space hspace hmem
    rw [hspace c hmem] at hblank
    cases hblank
  cases h with
  | intro hbefore hnumber hgap hspelling hafter =>
    simp only [List.mem_append, hnot hbefore, hnot hgap, hnot hafter, false_or, or_false] at hc
    rcases hc with hc | hc
    · cases hnumber with
      | whole => exact List.mem_append_left [] hc
      | point =>
        rw [List.mem_append, List.mem_cons] at hc
        rcases hc with hc | rfl | hc
        · exact List.mem_append_left _ hc
        · exact absurd List.mem_cons_self hother
        · exact List.mem_append_right _ hc
    · exact absurd (List.mem_cons_of_mem _ (mem_unitChars hspelling c hc)) hother

/-- `velocity?` reads a text as a speed exactly if it is a `SpeedText` in ASCII digits: white space,
a number, white space, perhaps a unit, and white space. The speed is the float nearest to the
number, times the `factor` of the unit. If other digits are taken for digits too (`decimal`), a
text in which they are needed is still not read. -/
theorem velocity?_grammar (value : String) :
    (∀ x, velocity? value = some x ↔ ∃ whole frac unit,
      SpeedText Digit whole frac unit value.toList ∧
        x = ((numberOf whole frac).toBinary64 false).toFloat * unit.factor) ∧
      ∀ decimal : Char → Prop, (∀ c, c.isDigit = true → decimal c) →
        (∀ whole frac unit, SpeedText decimal whole frac unit value.toList →
          ∃ c ∈ whole ++ frac, c.isDigit = false) →
        velocity? value = none := by
  have hiff : ∀ x, velocity? value = some x ↔ ∃ whole frac unit,
      SpeedText Digit whole frac unit value.toList ∧
        x = ((numberOf whole frac).toBinary64 false).toFloat * unit.factor := by
    intro x
    constructor
    · intro h
      obtain ⟨whole, frac, unit, htext⟩ := speedText_of_velocity? h
      rw [velocity?_of_speedText htext] at h
      exact ⟨whole, frac, unit, htext, (Option.some.inj h).symm⟩
    · rintro ⟨whole, frac, unit, htext, rfl⟩
      exact velocity?_of_speedText htext
  refine ⟨hiff, fun decimal hdecimal honly => ?_⟩
  rw [Option.eq_none_iff_forall_ne_some]
  intro x hx
  obtain ⟨whole, frac, unit, htext, -⟩ := (hiff x).1 hx
  obtain ⟨c, hc, hother⟩ := honly whole frac unit (htext.mono hdecimal)
  rw [htext.digits c hc] at hother
  cases hother

/-- A number is read with its unit and with white space around it, but not with a digit that is
none of ASCII. -/
theorem velocity?_grammar_mixed :
    velocity? " 7.5m/s\n" = some (7.5 * 3.6) ∧ velocity? "7٥ km/h" = none := by
  obtain ⟨hread, -⟩ := velocity?_grammar " 7.5m/s\n"
  obtain ⟨-, hunread⟩ := velocity?_grammar "7٥ km/h"
  constructor
  · have hnumber : NumberText Digit ['7'] ['5'] ['7', '.', '5'] :=
      .point (by decide) (List.forall_mem_singleton.2 (by decide))
        (List.forall_mem_singleton.2 (by decide)) (by decide)
    have htext : SpeedText Digit ['7'] ['5'] .metresPerSecond " 7.5m/s\n".toList :=
      @SpeedText.intro _ _ _ _ [' '] _ [] ['\n'] "m/s" (List.forall_mem_singleton.2 (by decide))
        hnumber nofun (by decide) (List.forall_mem_singleton.2 (by decide))
    have hvalue : ((numberOf ['7'] ['5']).toBinary64 false).toFloat = 7.5 := by decide +kernel
    exact (hread _).2 ⟨_, _, _, htext, by rw [hvalue]; rfl⟩
  · refine hunread (fun c => c.isDigit = true ∨ c = '٥') (fun c => .inl) fun whole frac unit h => ?_
    exact ⟨'٥', h.mem_of_mem (by decide) (by decide) (by decide), by decide⟩

end Attribute

end RoadNet
