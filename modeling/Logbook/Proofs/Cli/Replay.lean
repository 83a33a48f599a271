import Logbook.Proofs.Cli.Reading
import Logbook.Proofs.Json.OneLine
import Logbook.Proofs.Normalizer.FixedPoint

/-! Records that have been printed are lines again. A printed record is one line whatever its texts
hold, the lines of a whole output fall apart where they were put together, and each of them is the
record it came from before any rule is tried. -/

namespace Logbook

open Json (Members)
open Text.Utf8 (encode)

namespace Record

/-- The metadata may stand in any order when a record is printed. -/
def IsReordered (r : Record) (printed : Record) : Prop :=
  ∃ members : Members, members.Perm r.metadata ∧ printed = { r with metadata := members }

/-- Nothing is missing, and the metadata can be read exactly and at its depth. -/
structure IsReplayable (r : Record) : Prop where
  canonical : Members.IsCanonical r.metadata
  filled : r.IsFilled
  readable : ∀ m ∈ r.metadata, m.2.FloatFree ∧ m.2.depth ≤ 125

variable {r printed : Record}

theorem IsReplayable.isExact (h : r.IsReplayable) : ∀ m ∈ r.metadata, m.2.IsExact :=
  Normalizer.isExact_of_floatFree h.canonical fun m hm => (h.readable m hm).1

theorem IsReplayable.isLine (h : r.IsReplayable) (hprinted : r.IsReordered printed) :
    Text.IsLine printed.toJson.compact := by
  obtain ⟨members, hperm, rfl⟩ := hprinted
  exact Json.isLine_compact (isExact_toJson fun m hm => h.isExact m (hperm.mem_iff.mp hm))

theorem IsReplayable.normalize (h : r.IsReplayable) (hprinted : r.IsReordered printed)
    (n : Normalizer) (now : Time.Instant) : n.normalize now printed.toJson.compact = r := by
  obtain ⟨members, hperm, rfl⟩ := hprinted
  exact Normalizer.normalize_compact n now h.canonical h.filled h.isExact
    (fun m hm => (h.readable m hm).2) hperm

end Record

namespace Cli

variable {s : Setting} {records printed : List Record}

theorem isLine_printed (hrecords : ∀ r ∈ records, r.IsReplayable)
    (hprinted : List.Forall₂ Record.IsReordered records printed) :
    ∀ text ∈ printed.map fun r => r.toJson.compact, Text.IsLine text := by
  induction hprinted with
  | nil => simp
  | cons hr _ ih =>
    obtain ⟨hrecord, hrecords⟩ := List.forall_mem_cons.mp hrecords
    exact List.forall_mem_cons.mpr ⟨hrecord.isLine hr, ih hrecords⟩

theorem normalizeLines_printed (n : Normalizer) (now : Time.Instant)
    (hrecords : ∀ r ∈ records, r.IsReplayable)
    (hprinted : List.Forall₂ Record.IsReordered records printed) :
    n.normalizeLines now (printed.map fun r => r.toJson.compact) = records := by
  induction hprinted with
  | nil => rfl
  | cons hr _ ih =>
    obtain ⟨hrecord, hrecords⟩ := List.forall_mem_cons.mp hrecords
    exact congrArg₂ List.cons (hrecord.normalize hr n now) (ih hrecords)

/-- The whole output comes back, record by record. -/
theorem normalizeBytesLines_printed (n : Normalizer) (now : Time.Instant)
    (hrecords : ∀ r ∈ records, r.IsReplayable)
    (hprinted : List.Forall₂ Record.IsReordered records printed) :
    n.normalizeBytesLines now (encode (lines (printed.map fun r => r.toJson.compact))) =
      records.map some := by
  rw [lines, Normalizer.normalizeBytesLines_encode (.inl rfl) (isLine_printed hrecords hprinted),
    normalizeLines_printed n now hrecords hprinted]

/-- What one command line has printed as JSON, another one reads and shows again, whatever rules
it is given. -/
theorem run_printed (s s' : Setting) {args : List String} {file rules : Option String}
    {output : Output} {records printed : List Record} (hrecords : ∀ r ∈ records, r.IsReplayable)
    (hprinted : List.Forall₂ Record.IsReordered records printed)
    (hargs : readArguments s.rulesVariable args = .ok (.normalize file rules output))
    (hrules : (s.normalizer? rules).isSome = true)
    (hinput : file.elim (some s.input) s.file? =
      some (encode (s'.printRecords (printed.map some) .json).stdout)) :
    run s args = .success (s.shown records output) := by
  obtain ⟨n, hn⟩ := Option.isSome_iff_exists.mp hrules
  rw [printRecords_some, Outcome.success, Setting.shown] at hinput
  rw [run, hargs]
  simp only [Setting.perform, Setting.normalize, hn, hinput,
    normalizeBytesLines_printed n s.now hrecords hprinted, printRecords_some]

/-- Texts that are full of ends of lines. -/
def brokenRecord : Record where
  level := .error
  message := "first\r\nsecond\u2028\r"
  service := "\n"
  timestamp := "\r"
  metadata := [("cause", .string "\x85\n"), ("codes", .array [.integer 1, .object []])]

theorem isReplayable_brokenRecord : brokenRecord.IsReplayable where
  canonical := by
    refine ⟨by decide, fun m hm => ?_⟩
    have hcases : m = ("cause", .string "\x85\n") ∨
        m = ("codes", .array [.integer 1, .object []]) := by
      simpa [brokenRecord] using hm
    rcases hcases with rfl | rfl <;> exact ⟨rfl, by decide⟩
  filled := ⟨by decide, by decide, by decide⟩
  readable := by decide

/-- The record is printed twice, once with its metadata the other way round. -/
def brokenPrinted : List Record :=
  [brokenRecord, { brokenRecord with metadata := brokenRecord.metadata.reverse }]

/-- What the setting prints for the two records. -/
def brokenOutput : List UInt8 :=
  encode ((ruledSetting []).printRecords (brokenPrinted.map some) .json).stdout

theorem run_printed_broken :
    ((∀ r ∈ [brokenRecord, brokenRecord], r.IsReplayable) ∧
        List.Forall₂ Record.IsReordered [brokenRecord, brokenRecord] brokenPrinted ∧
        ((ruledSetting brokenOutput).normalizer? (some "more.toml")).isSome = true) ∧
      run (ruledSetting brokenOutput) ["normalize"] =
        .success (lines [brokenRecord.toJson.compact, brokenRecord.toJson.compact]) := by
  have hrecords : ∀ r ∈ [brokenRecord, brokenRecord], r.IsReplayable := by
    simpa using isReplayable_brokenRecord
  have hprinted : List.Forall₂ Record.IsReordered [brokenRecord, brokenRecord] brokenPrinted :=
    .cons ⟨_, .refl _, rfl⟩ (.cons ⟨_, List.reverse_perm _, rfl⟩ .nil)
  have hrules := isSome_ruledSetting brokenOutput
  have hargs : readArguments (ruledSetting brokenOutput).rulesVariable ["normalize"] =
      .ok (.normalize none (some "more.toml") .json) := rfl
  have hshown : (ruledSetting brokenOutput).shown [brokenRecord, brokenRecord] .json =
      lines [brokenRecord.toJson.compact, brokenRecord.toJson.compact] := by
    simp only [Setting.shown, List.map_cons, List.map_nil]
  refine ⟨⟨hrecords, hprinted, hrules⟩, ?_⟩
  rw [← hshown]
  exact run_printed (ruledSetting brokenOutput) (ruledSetting []) hrecords hprinted hargs hrules rfl

end Cli

end Logbook
