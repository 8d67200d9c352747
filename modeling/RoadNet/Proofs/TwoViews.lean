import RoadNet.Command.Report
import RoadNet.Proofs.Disassembled
import RoadNet.Proofs.Formats
import RoadNet.Proofs.Stages

/-!
# RoadNet.Proofs.TwoViews

Strict and robust mode are two views of one run, through the whole library: reading and writing
of texts, assembly and its clean-ups, and taking a map apart.

Each operation settles, that is, comes across the same failures and has the same result under
both policies. What a caller sees of that is `TwoViews`; `check_exitCode_iff` draws the
conclusion for the command that checks a file.
-/

namespace RoadNet

/-! ## Taking a map apart -/

/-- `toRecords` is `Settled`: it reports alike under both policies. -/
theorem RoadMap.settled_toRecords (m : RoadMap) : Settled fun policy => m.toRecords policy :=
  m.settles_toRecords.settled

/-! ## Texts -/

namespace MapFiles

variable (x : MapFiles) (projector : Projector)

/-- `readMap` is `Settled` under a reader of a `SettledMaker`. -/
theorem settled_readMap {make : MakeReader} (h : SettledMaker make) (text : String) :
    Settled fun policy => x.readMap make projector policy text :=
  settled_lift_bind (h projector x.options).1 fun reader hreader =>
    Settled.bind ((h projector x.options).2 reader hreader text) fun records =>
      (Assembly.settles_ofRecords x.rules records).settled

/-- `writeMap` is `Settled` under a writer of a `SettledMaker`. -/
theorem settled_writeMap {make : MakeWriter} (h : SettledMaker make) (m : RoadMap) :
    Settled fun policy => x.writeMap make projector policy m :=
  settled_lift_bind (h projector x.options).1 fun writer hwriter =>
    Settled.bind m.settled_toRecords fun records =>
      (h projector x.options).2 writer hwriter records

/-- `parse` in the `bundled` formats is `Settled`. -/
theorem settled_parse {x : MapFiles} (hx : x.formats = .bundled) (format text : String) :
    Settled fun policy => x.parse format projector policy text := by
  refine settled_lift_bind (FormatRegistry.unskippable_select) fun make hmake => ?_
  rw [hx] at hmake
  exact settled_readMap x projector (FormatRegistry.settledMaker_reader hmake) text

/-- `render` in the `bundled` formats is `Settled`. -/
theorem settled_render {x : MapFiles} (hx : x.formats = .bundled) (format : String) (m : RoadMap) :
    Settled fun policy => x.render format projector policy m := by
  refine settled_lift_bind (FormatRegistry.unskippable_select) fun make hmake => ?_
  rw [hx] at hmake
  exact settled_writeMap x projector (FormatRegistry.settledMaker_writer hmake) m

end MapFiles

/-! ## Files -/

section Files

variable {σ : Type}

namespace FileRun

/-- The second part of a `FileRun` starts from the messages and the files that the first has
left. -/
theorem bind_apply (run : FileRun (StateM σ) α) (next : α → FileRun (StateM σ) β)
    (messages : List String) (s : σ) :
    (run >>= next) messages s =
      match run messages s with
      | ((.ok a, later), s') => next a later s'
      | ((.error f, later), s') => ((.error f, later), s') := by
  simp only [Bind.bind, ExceptT.bind, ExceptT.mk, StateT.bind]
  rcases run messages s with ⟨⟨_ | a, later⟩, s'⟩ <;> rfl

theorem ofRun_apply (run : Run α) (messages : List String) (s : σ) :
    (ofRun run : FileRun (StateM σ) α) messages s = (run messages, s) := rfl

theorem ofAccess_apply (access : StateM σ (Except FileFault α)) (messages : List String)
    (s : σ) :
    (ofAccess access : FileRun (StateM σ) α) messages s =
      match access s with
      | (.ok a, s') => ((.ok a, messages), s')
      | (.error fault, s') => ((.error (.file fault), messages), s') := by
  unfold ofAccess
  rw [bind_apply]
  have hlift : (liftM access : FileRun (StateM σ) (Except FileFault α)) messages s =
      ((.ok (access s).1, messages), (access s).2) := rfl
  rw [hlift]
  rcases access s with ⟨_ | a, s'⟩ <;> rfl

end FileRun

variable {x : MapFiles} {files : FileAccess (StateM σ)} {path : String}
variable {format : Option String} {projector : Projector}

/-- `load` selects a format, reads the file and reads the map, in this order. -/
theorem MapFiles.load_apply (policy : Policy) (messages : List String) (s : σ) :
    x.load files path format projector policy messages s =
      match x.formats.select Format.reader path format with
      | .error f => ((.error f, messages), s)
      | .ok make =>
        match files.read path s with
        | (.error fault, s') => ((.error (.file fault), messages), s')
        | (.ok text, s') => (x.readMap make projector policy text messages, s') := by
  unfold load
  rw [FileRun.bind_apply, FileRun.ofRun_apply]
  cases x.formats.select Format.reader path format with
  | error f => rfl
  | ok make =>
    change ((FileRun.ofAccess (files.read path) : FileRun (StateM σ) String) >>= fun text =>
      FileRun.ofRun (x.readMap make projector policy text)) messages s = _
    rw [FileRun.bind_apply, FileRun.ofAccess_apply]
    rcases files.read path s with ⟨_ | text, s'⟩ <;> rfl

/-- A strict `load` gives a map exactly if the robust one does and skips nothing. -/
theorem MapFiles.load_strict_iff (hx : x.formats = .bundled) (s : σ) {map : RoadMap} :
    (x.load files path format projector .strict [] s).1.1 = .ok map ↔
      (x.load files path format projector .robust [] s).1 = (.ok map, []) := by
  rw [load_apply, load_apply, hx]
  cases hmake : FormatRegistry.bundled.select Format.reader path format with
  | error f => exact iff_of_false nofun nofun
  | ok make =>
    rcases files.read path s with ⟨fault | text, s'⟩
    · exact iff_of_false nofun nofun
    · have hmaker := FormatRegistry.settledMaker_reader hmake
      exact (settled_readMap x projector hmaker text).twoViews.strict_ok_iff

namespace Command

/-- The command `check` succeeds exactly if the robust `load` gives a map and skips nothing. -/
theorem check_exitCode_iff (files : FileAccess (StateM σ)) (input : String)
    (origin : Option Origin) (inputFormat : Option String) (s : σ) :
    (run files (.check input origin inputFormat) s).1.exitCode = 0 ↔
      ∃ map, (MapFiles.standard.load files input inputFormat (projectorAt origin) .robust []
        s).1 = (.ok map, []) := by
  have hcode : failureCode ≠ 0 := by decide
  simp only [run, runCheck, Bind.bind, StateT.bind]
  rcases MapFiles.standard.load files input inputFormat (projectorAt origin) .robust [] s with
    ⟨⟨f | map, messages⟩, s'⟩
  · exact iff_of_false hcode fun ⟨_, h⟩ => nomatch h
  · cases messages with
    | nil => exact iff_of_true rfl ⟨map, rfl⟩
    | cons text texts => exact iff_of_false hcode fun ⟨_, h⟩ => nomatch h

end Command

end Files

/-! ## Both modes -/

/-- Strict and robust mode are `TwoViews` of one run, for the `bundled` formats, any projector, any
options and any rules: `parse` and `render`, `ofRecords`, `toRecords`, and both clean-ups. So the
command `check` succeeds exactly if a strict load of the file does. -/
theorem twoViews_of_bundled (rules : RuleRegistry) (options : Options)
    (projector : Projector) :
    (∀ format text, TwoViews fun policy =>
      MapFiles.parse ⟨.bundled, rules, options⟩ format projector policy text) ∧
    (∀ format m, TwoViews fun policy =>
      MapFiles.render ⟨.bundled, rules, options⟩ format projector policy m) ∧
    (∀ r, TwoViews fun policy => RoadMap.ofRecords rules policy r) ∧
    (∀ m : RoadMap, TwoViews fun policy => m.toRecords policy) ∧
    (∀ r : RecordSet, TwoViews fun policy => r.dropDuplicates policy) ∧
    (∀ r : RecordSet, TwoViews fun policy => r.prune policy) ∧
    ∀ (σ : Type) (files : FileAccess (StateM σ)) input origin inputFormat (s : σ),
      (Command.run files (.check input origin inputFormat) s).1.exitCode = 0 ↔
        ∃ map, (MapFiles.standard.load files input inputFormat (Command.projectorAt origin)
          .strict [] s).1.1 = .ok map := by
  refine ⟨fun format text => (MapFiles.settled_parse projector rfl format text).twoViews,
    fun format m => (MapFiles.settled_render projector rfl format m).twoViews,
    fun r => (Assembly.settles_ofRecords rules r).twoViews,
    fun m => m.settled_toRecords.twoViews, fun r => r.settles_dropDuplicates.twoViews,
    fun r => r.settles_prune.twoViews, fun σ files input origin inputFormat s => ?_⟩
  rw [Command.check_exitCode_iff]
  exact exists_congr fun map => (MapFiles.load_strict_iff rfl s).symm

end RoadNet
