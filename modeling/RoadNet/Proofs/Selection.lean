import Mathlib.Data.List.Nodup
import Mathlib.Data.List.TakeDrop
import Mathlib.Data.List.TakeWhile
import RoadNet.MapFiles

/-!
# RoadNet.Proofs.Selection

Which format is selected from a registry, and that later registrations do not change it
(`FormatRegistry.selects_registerAll`).

* `extension?_eq_some` — the trailing extension of a path;
* `registerAll` — a registry after any calls; `formats_registerAll` says what it holds;
* `Chosen` — the format that a name or a path stands for; `select_eq_ok` — selecting finds it.
-/

namespace RoadNet

/-! ## Extensions -/

/-- A text is split at its last point by `span` from behind. -/
theorem span_reverse {stem suffix : List Char} (h : '.' ∉ suffix) :
    (stem ++ '.' :: suffix).reverse.span (· ≠ '.') = (suffix.reverse, '.' :: stem.reverse) := by
  have hsuffix : ∀ c ∈ suffix.reverse, decide (c ≠ '.') = true := fun c hc =>
    decide_eq_true fun heq => h (heq ▸ List.mem_reverse.1 hc)
  rw [List.span_eq_takeWhile_dropWhile, List.reverse_append, List.reverse_cons, List.append_assoc,
    List.takeWhile_append_of_pos hsuffix, List.dropWhile_append_of_pos hsuffix]
  simp

theorem exists_of_span_reverse {name suffix before : List Char}
    (h : name.reverse.span (· ≠ '.') = (suffix, before)) (hne : before ≠ []) :
    ∃ stem, before = '.' :: stem ∧ name = stem.reverse ++ '.' :: suffix.reverse ∧ '.' ∉ suffix := by
  rw [List.span_eq_takeWhile_dropWhile, Prod.mk.injEq] at h
  obtain ⟨rfl, hbefore⟩ := h
  obtain ⟨c, stem, rfl⟩ := List.exists_cons_of_ne_nil hne
  have hsplit : name.reverse.takeWhile (· ≠ '.') ++ c :: stem = name.reverse := by
    rw [← hbefore, List.takeWhile_append_dropWhile]
  have hpoint : c = '.' := by
    have hhead := List.head?_dropWhile_not (· ≠ '.') name.reverse
    rw [hbefore] at hhead
    simpa using hhead
  subst hpoint
  refine ⟨stem, rfl, ?_, fun hmem => by simpa using List.mem_takeWhile_imp hmem⟩
  calc name = (name.reverse.takeWhile (· ≠ '.') ++ '.' :: stem).reverse := by
        rw [hsplit, List.reverse_reverse]
    _ = stem.reverse ++ '.' :: (name.reverse.takeWhile (· ≠ '.')).reverse := by simp

/-- `extension?` is the end of a file name from its last point on, where something stands before
it. -/
theorem extension?_eq_some {path extension : String} :
    extension? path = some extension ↔ ∃ stem suffix,
      fileName? path = some (stem ++ "." ++ suffix) ∧ stem ≠ "" ∧ '.' ∉ suffix.toList ∧
        extension = "." ++ suffix := by
  rw [extension?, Option.bind_eq_some_iff]
  constructor
  · rintro ⟨name, hname, h⟩
    cases hspan : name.toList.reverse.span (· ≠ '.') with
    | mk suffix before =>
      rw [hspan] at h
      obtain ⟨hlength, hextension⟩ := Option.ite_none_left_eq_some.1 h
      have hne : before ≠ [] := fun hnil => hlength (by simp [hnil])
      obtain ⟨stem, rfl, hsplit, hsuffix⟩ := exists_of_span_reverse hspan hne
      refine ⟨.ofList stem.reverse, .ofList suffix.reverse, ?_, ?_, by simpa using hsuffix, ?_⟩
      · rw [hname, Option.some.injEq, ← String.toList_inj, hsplit]
        simp
      · simpa using hlength
      · rw [← Option.some.inj hextension, ← String.toList_inj]
        simp
  · rintro ⟨stem, suffix, hname, hstem, hsuffix, rfl⟩
    have hsplit : (stem ++ "." ++ suffix).toList = stem.toList ++ '.' :: suffix.toList := by simp
    have hlength : ¬('.' :: stem.toList.reverse).length ≤ 1 := by simpa using hstem
    refine ⟨_, hname, ?_⟩
    rw [hsplit, span_reverse hsuffix]
    dsimp only
    rw [if_neg hlength, List.reverse_reverse]
    simp

/-- A point at the very start of a name does not begin an extension. -/
example : extension? "maps/.osm" = none ∧ extension? "maps/town.osm.xml" = some ".xml" := by decide

namespace FormatRegistry

universe u

variable {g : FormatRegistry} {f : Format}

/-! ## Registering -/

theorem mem_names : f.name ∈ g.names ↔ (g.get? f.name).isSome = true := by
  simp [names, get?]

/-- `register` refuses a format exactly if its name is taken, and else puts it last. -/
theorem register_eq (g : FormatRegistry) (f : Format) :
    g.register f =
      if f.name ∈ g.names then .error (.duplicateFormat f.name) else .ok ⟨g.formats ++ [f]⟩ := by
  simp only [register, mem_names]

/-- The registry after `register`, which is the same one if the call is refused. -/
def attempt (g : FormatRegistry) (f : Format) : FormatRegistry :=
  match g.register f with
  | .ok g' => g'
  | .error _ => g

/-- The registry after a list of calls to `register`. -/
def registerAll (g : FormatRegistry) (calls : List Format) : FormatRegistry :=
  calls.foldl attempt g

/-- The formats of a list that are the first under their names, leaving out names that are `taken`
before. -/
def newcomers : List String → List Format → List Format
  | _, [] => []
  | taken, f :: rest =>
    if f.name ∈ taken then newcomers taken rest else f :: newcomers (taken ++ [f.name]) rest

/-- An `attempt` changes nothing exactly if the name is taken. -/
theorem attempt_eq (g : FormatRegistry) (f : Format) :
    g.attempt f = if f.name ∈ g.names then g else ⟨g.formats ++ [f]⟩ := by
  rw [attempt, register_eq]
  by_cases h : f.name ∈ g.names
  · rw [if_pos h, if_pos h]
  · rw [if_neg h, if_neg h]

/-- `registerAll` puts the `newcomers` behind the formats that are there. -/
theorem formats_registerAll (g : FormatRegistry) (calls : List Format) :
    (g.registerAll calls).formats = g.formats ++ newcomers g.names calls := by
  induction calls generalizing g with
  | nil => simp [registerAll, newcomers]
  | cons f rest ih =>
    have hstep : g.registerAll (f :: rest) = (g.attempt f).registerAll rest := rfl
    rw [hstep, ih, attempt_eq, newcomers]
    split
    · rfl
    · simp [names]

theorem newcomers_sublist (taken : List String) (calls : List Format) :
    (newcomers taken calls).Sublist calls := by
  fun_induction newcomers taken calls with
  | case1 => exact .slnil
  | case2 taken f rest _ ih => exact ih.cons f
  | case3 taken f rest _ ih => exact ih.cons_cons f

theorem nodup_attempt (h : g.names.Nodup) (f : Format) : (g.attempt f).names.Nodup := by
  rw [attempt_eq]
  split
  next => exact h
  next hfree =>
    have hnames : (g.names ++ [f.name]).Nodup :=
      List.nodup_append.2 ⟨h, List.nodup_singleton _, fun a ha b hb heq =>
        hfree (List.mem_singleton.1 hb ▸ heq ▸ ha)⟩
    simpa [names] using hnames

/-- The names of a registry stay distinct under `registerAll`. -/
theorem nodup_registerAll (h : g.names.Nodup) (calls : List Format) :
    (g.registerAll calls).names.Nodup := by
  induction calls generalizing g with
  | nil => exact h
  | cons f rest ih => exact ih (nodup_attempt h f)

/-! ## Selecting -/

section Selecting

variable {α : Type u} {capability : Format → Option α} {path : String} {name : Option String}

/-- The format that a name stands for, or else the path: by its `extension?` a path stands for the
first format of this extension that has the capability. -/
inductive Chosen (g : FormatRegistry) (capability : Format → Option α) (path : String) :
    Option String → Format → Prop where
  | byName {f : Format} (hf : f ∈ g.formats) : Chosen g capability path (some f.name) f
  | byExtension {f : Format} {before after : List Format}
      (hformats : g.formats = before ++ f :: after) (hnonempty : f.extension ≠ "")
      (hextension : extension? path = some f.extension)
      (hearlier : ∀ e ∈ before, e.extension = f.extension → capability e = none) :
      Chosen g capability path none f

/-- A name stands for one format, if the names are distinct. -/
theorem eq_of_name_eq (h : g.names.Nodup) {e : Format} (he : e ∈ g.formats) (hf : f ∈ g.formats)
    (hname : e.name = f.name) : e = f :=
  List.inj_on_of_nodup_map h he hf hname

/-- `get?` finds the format of a name. -/
theorem get?_eq_some (h : g.names.Nodup) {name : String} :
    g.get? name = some f ↔ f ∈ g.formats ∧ f.name = name := by
  constructor
  · intro hget
    exact ⟨List.mem_of_find?_eq_some hget, by simpa using List.find?_some hget⟩
  · rintro ⟨hf, rfl⟩
    cases hget : g.get? f.name with
    | none => simpa using List.find?_eq_none.1 hget f hf
    | some e =>
      have he : e.name = f.name := by simpa using List.find?_some hget
      rw [eq_of_name_eq h (List.mem_of_find?_eq_some hget) hf he]

/-- The capability of a format, if its extension is the given one. -/
def ofExtension (capability : Format → Option α) (extension : String) (f : Format) : Option α :=
  if f.extension ≠ "" && f.extension = extension then capability f else none

theorem ofExtension_eq_some {extension : String} {found : α} :
    ofExtension capability extension f = some found ↔
      (f.extension ≠ "" ∧ f.extension = extension) ∧ capability f = some found := by
  simp [ofExtension]

/-- A format is passed over if its extension is another one or it lacks the capability. -/
theorem ofExtension_eq_none {extension : String} :
    ofExtension capability extension f = none ↔
      (f.extension ≠ "" ∧ f.extension = extension → capability f = none) := by
  simp [ofExtension]

/-- Filtering by the extension and then searching for the capability is one search. -/
theorem findSome?_ofExtension (capability : Format → Option α) (extension : String)
    (l : List Format) :
    (l.filter fun f => f.extension ≠ "" && f.extension = extension).findSome? capability =
      l.findSome? (ofExtension capability extension) := by
  induction l with
  | nil => rfl
  | cons f l ih =>
    cases hf : f.extension ≠ "" && f.extension = extension <;>
      simp only [List.filter_cons, List.findSome?_cons, ofExtension, hf, ih, if_true, if_false,
        Bool.false_eq_true]

/-- The capability that `select` finds, if there is one. -/
def selected? (g : FormatRegistry) (capability : Format → Option α) (path : String) :
    Option String → Option α
  | some name => (g.get? name).bind capability
  | none => (extension? path).bind fun extension =>
      g.formats.findSome? (ofExtension capability extension)

/-- A refusal of `select` names the format that is asked for, or else the extension or the path. -/
def refusal (path : String) (name : Option String) : Failure :=
  .unsupportedFormat (name.getD ((extension? path).getD path))

/-- `select` gives what is `selected?`, or the `refusal`. -/
theorem select_eq (g : FormatRegistry) (capability : Format → Option α) (path : String)
    (name : Option String) :
    g.select capability path name =
      (g.selected? capability path name).elim (.error (refusal path name)) .ok := by
  cases name with
  | some name => cases h : (g.get? name).bind capability <;> simp [select, selected?, refusal, h]
  | none =>
    cases hextension : extension? path with
    | none => simp [select, selected?, refusal, hextension]
    | some extension =>
      cases h : g.formats.findSome? (ofExtension capability extension) <;>
        simp only [select, selected?, refusal, hextension, findSome?_ofExtension, h,
          Option.bind_some, Option.elim_none, Option.elim_some, Option.getD_none, Option.getD_some]

/-- What is `Chosen` for a name or a path is so in a registry that holds more behind. -/
theorem Chosen.append {g' : FormatRegistry} (h : g.Chosen capability path name f)
    {more : List Format} (hmore : g'.formats = g.formats ++ more) :
    g'.Chosen capability path name f := by
  cases h with
  | byName hf => exact .byName (hmore ▸ List.mem_append_left more hf)
  | @byExtension _ before after hformats hnonempty hextension hearlier =>
    have hformats' : g'.formats = before ++ f :: (after ++ more) := by
      rw [hmore, hformats, List.append_assoc, List.cons_append]
    exact .byExtension hformats' hnonempty hextension hearlier

/-- What is `selected?` is the capability of the format that is `Chosen`. -/
theorem selected?_eq_some (h : g.names.Nodup) {found : α} :
    g.selected? capability path name = some found ↔
      ∃ f, g.Chosen capability path name f ∧ capability f = some found := by
  constructor
  · intro hfound
    cases name with
    | some name =>
      obtain ⟨f, hget, hcap⟩ := Option.bind_eq_some_iff.1 hfound
      obtain ⟨hf, rfl⟩ := (get?_eq_some h).1 hget
      exact ⟨f, .byName hf, hcap⟩
    | none =>
      obtain ⟨extension, hextension, hfirst⟩ := Option.bind_eq_some_iff.1 hfound
      obtain ⟨before, f, after, hformats, hf, hearlier⟩ := List.findSome?_eq_some_iff.1 hfirst
      obtain ⟨⟨hnonempty, rfl⟩, hcap⟩ := ofExtension_eq_some.1 hf
      refine ⟨f, .byExtension hformats hnonempty hextension fun e he heq => ?_, hcap⟩
      exact ofExtension_eq_none.1 (hearlier e he) ⟨heq ▸ hnonempty, heq⟩
  · rintro ⟨f, hf, hcap⟩
    cases hf with
    | byName hf => rw [selected?, (get?_eq_some h).2 ⟨hf, rfl⟩, Option.bind_some, hcap]
    | byExtension hformats hnonempty hextension hearlier =>
      rw [selected?, hextension, Option.bind_some, List.findSome?_eq_some_iff]
      refine ⟨_, f, _, hformats, ofExtension_eq_some.2 ⟨⟨hnonempty, rfl⟩, hcap⟩, fun e he => ?_⟩
      exact ofExtension_eq_none.2 fun heq => hearlier e he heq.2

/-- `select` succeeds with the capability of the format that is `Chosen`. -/
theorem select_eq_ok (h : g.names.Nodup) {found : α} :
    g.select capability path name = .ok found ↔
      ∃ f, g.Chosen capability path name f ∧ capability f = some found := by
  rw [← selected?_eq_some h, select_eq]
  cases g.selected? capability path name <;> simp

/-- `select` refuses exactly if no format that is `Chosen` has the capability. -/
theorem select_eq_error (h : g.names.Nodup) :
    g.select capability path name = .error (refusal path name) ↔
      ∀ f, g.Chosen capability path name f → capability f = none := by
  have hnone : g.selected? capability path name = none ↔
      ∀ f, g.Chosen capability path name f → capability f = none := by
    simp only [Option.eq_none_iff_forall_ne_some, ne_eq, selected?_eq_some h, not_exists, not_and]
    exact ⟨fun hno f hf found => hno found f hf, fun hno found f hf => hno f hf found⟩
  rw [← hnone, select_eq]
  cases g.selected? capability path name <;> simp

/-- A selection stays the same whatever `registerAll` adds later. -/
theorem select_registerAll (h : g.names.Nodup) {found : α}
    (hselect : g.select capability path name = .ok found) (more : List Format) :
    (g.registerAll more).select capability path name = .ok found := by
  obtain ⟨f, hf, hcap⟩ := (select_eq_ok h).1 hselect
  exact (select_eq_ok (nodup_registerAll h more)).2
    ⟨f, hf.append (g.formats_registerAll more), hcap⟩

end Selecting

/-! ## Histories -/

/-- Whatever is registered after the `empty` or the `bundled` registry, formats have names of their
own and stand in the order of registration, and a call that is refused changes nothing. A name
selects the one format that has it, and a path the first one of its extension that can be used
(`Chosen`); if there is none, `select` refuses. No later call changes a selection that succeeds. -/
theorem selects_registerAll {g : FormatRegistry} (start : g = .empty ∨ g = .bundled)
    (calls : List Format) :
    let h := g.registerAll calls
    h.names.Nodup ∧
      (h.formats = g.formats ++ newcomers g.names calls ∧
        (newcomers g.names calls).Sublist calls) ∧
      (∀ f, (f.name ∈ h.names →
          h.register f = .error (.duplicateFormat f.name) ∧ h.attempt f = h) ∧
        (f.name ∉ h.names →
          h.register f = .ok (h.attempt f) ∧ (h.attempt f).formats = h.formats ++ [f])) ∧
      ∀ {α : Type u} (capability : Format → Option α) (path : String) (name : Option String),
        (∀ found, h.select capability path name = .ok found ↔
          ∃ f, h.Chosen capability path name f ∧ capability f = some found) ∧
        (h.select capability path name = .error (refusal path name) ↔
          ∀ f, h.Chosen capability path name f → capability f = none) ∧
        ∀ found, h.select capability path name = .ok found → ∀ more,
          (h.registerAll more).select capability path name = .ok found := by
  intro h
  have hstart : g.names.Nodup := by rcases start with rfl | rfl <;> decide
  have hnodup : h.names.Nodup := nodup_registerAll hstart calls
  refine ⟨hnodup, ⟨g.formats_registerAll calls, newcomers_sublist _ _⟩,
    fun f => ⟨fun hf => ?_, fun hf => ?_⟩, fun capability path name =>
      ⟨fun found => select_eq_ok hnodup, select_eq_error hnodup,
        fun found hfound => select_registerAll hnodup hfound⟩⟩
  · rw [register_eq, attempt_eq, if_pos hf, if_pos hf]
    exact ⟨rfl, rfl⟩
  · rw [register_eq, attempt_eq, if_neg hf, if_neg hf]
    exact ⟨rfl, rfl⟩

/-- A format for writing only. -/
def sketch : Format := ⟨"sketch", ".svg", none, Yaml.format.writer⟩

/-- A format of the same extension for reading only. -/
def trace : Format := ⟨"trace", ".svg", Osm.format.reader, none⟩

/-- Files of the extension are read by the second format and written by the first, also when the
formats are registered again, and the second format cannot be selected for writing. -/
theorem selects_sketch_trace :
    let calls : List Format := [⟨"osm", ".svg", none, none⟩, sketch, trace]
    let h := bundled.registerAll calls
    h.formats = [Osm.format, Yaml.format, sketch, trace] ∧
      h.select Format.reader "plans/town.svg" none =
        .ok (fun projector _ => .ok (Osm.read projector)) ∧
      (h.registerAll calls).select Format.writer "plans/town.svg" none =
        .ok (fun projector _ => .ok (Yaml.write projector)) ∧
      h.select Format.writer "plans/town.svg" (some "trace") =
        .error (.unsupportedFormat "trace") := by
  intro calls h
  obtain ⟨-, ⟨hformats, -⟩, -, hselect⟩ := selects_registerAll (.inr rfl) calls
  have hextension : extension? "plans/town.svg" = some ".svg" := by decide
  have hread : h.formats = [Osm.format, Yaml.format, sketch] ++ [trace] := hformats
  have hwrite : h.formats = [Osm.format, Yaml.format] ++ [sketch, trace] := hformats
  refine ⟨hread, ?_, ?_, ?_⟩
  · obtain ⟨hok, -, -⟩ := hselect Format.reader "plans/town.svg" none
    refine (hok _).2 ⟨trace, .byExtension hread (by decide) hextension ?_, rfl⟩
    simp [Osm.format, Yaml.format, sketch, trace]
  · obtain ⟨hok, -, hlater⟩ := hselect Format.writer "plans/town.svg" none
    refine hlater _ ((hok _).2 ⟨sketch, .byExtension hwrite (by decide) hextension ?_, rfl⟩) calls
    simp [Osm.format, Yaml.format, sketch]
  · obtain ⟨-, herror, -⟩ := hselect Format.writer "plans/town.svg" (some "trace")
    refine herror.2 fun f hf => ?_
    generalize hname : some "trace" = name at hf
    cases hf with
    | byExtension => cases hname
    | byName hf =>
      rw [hread] at hf
      simp only [List.cons_append, List.nil_append, List.mem_cons, List.not_mem_nil, or_false] at hf
      rcases hf with rfl | rfl | rfl | rfl
      · exact absurd (Option.some.inj hname) (by decide)
      · exact absurd (Option.some.inj hname) (by decide)
      · exact absurd (Option.some.inj hname) (by decide)
      · rfl

end FormatRegistry

end RoadNet
