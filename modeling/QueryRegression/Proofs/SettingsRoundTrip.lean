import Mathlib.Data.List.Nodup
import QueryRegression.Policy.Settings.Document
import QueryRegression.Proofs.JsonRoundTrip

/-!
# Settings in files

Settings that are kept as JSON are what is loaded from the file again (`Settings.load_of_save`): all
texts, all numbers that a setting can have, and whether a setting is missing. JSON is the format of
every file whose extension names neither of the other two.

That the document can be read is due to `Json.parse?_pretty`, and that the right fields are found in
it to their distinct names (`Json.fields?_record`).
-/

namespace QueryRegression

namespace Json

/-! ## Records -/

section Records

variable {members : List (String × Json)} {α : Type} {toJson : α → Json} {read : Json → Option α}

theorem filter_named_eq_nil {name : String} (other : name ∉ members.map Prod.fst) :
    (named members).filter (·.1 == some name) = [] := by
  rw [List.filter_eq_nil_iff, named]
  intro m member same
  obtain ⟨⟨name', v⟩, inRecord, rfl⟩ := List.mem_map.mp member
  have equal : name' = name := by simpa using same
  exact other (List.mem_map.mpr ⟨_, inRecord, equal⟩)

/-- A record with distinct names has one member of each. -/
theorem member?_named (distinct : (members.map Prod.fst).Nodup) {m : String × Json}
    (inRecord : m ∈ members) : member? m.1 (named members) = some (.present m.2) := by
  have only : (named members).filter (·.1 == some m.1) = [(some m.1, m.2)] := by
    induction members with
    | nil => cases inRecord
    | cons first rest ih =>
        obtain ⟨notAgain, distinct'⟩ := List.nodup_cons.mp distinct
        rw [named, List.map_cons, ← named]
        rcases List.mem_cons.mp inRecord with rfl | later
        · rw [List.filter_cons_of_pos (by simp), filter_named_eq_nil notAgain]
        · have other : first.1 ≠ m.1 := fun same =>
            notAgain (same ▸ List.mem_map_of_mem later)
          rw [List.filter_cons_of_neg (by simpa using other), ih distinct' later]
  rw [member?, only]

theorem mapM_eq_some_map {β : Type} {find : α → Option β} {found : α → β} {l : List α}
    (each : ∀ a ∈ l, find a = some (found a)) : l.mapM find = some (l.map found) := by
  induction l with
  | nil => rfl
  | cons a rest ih =>
      obtain ⟨here, later⟩ := List.forall_mem_cons.mp each
      rw [List.mapM_cons, here, ih later]
      rfl

/-- The fields of a record are found by their names. -/
theorem fields?_record (distinct : (members.map Prod.fst).Nodup) :
    fields? (members.map Prod.fst) (record members) =
      some (members.map fun m => .present m.2) := by
  have allNamed : (named members).all (·.1.isSome) = true := by simp [named]
  rw [show record members = .object (named members) from rfl, fields?, if_pos allNamed,
    List.mapM_map]
  exact mapM_eq_some_map fun _ inRecord => member?_named distinct inRecord

/-- Optional data is read back if the data is; null stands for none. -/
theorem optional?_ofOption {a : Option α} (back : ∀ x ∈ a, read (toJson x) = some x)
    (notNull : ∀ x, toJson x ≠ .null) : optional? read (ofOption toJson a) = some a := by
  cases a with
  | none => rfl
  | some x =>
      have value : optional? read (toJson x) = (read (toJson x)).map some := by
        unfold optional?
        split
        next null => exact absurd null (notNull x)
        next => rfl
      rw [ofOption, value, back x rfl]
      rfl

end Records

end Json

namespace Settings

theorem isLegible_toJson (s : Settings) : s.toJson.IsLegible := by
  have text : ∀ t : Option String, (Json.ofOption .string t).IsLegible := fun t => by
    cases t with
    | none => exact .null
    | some t => exact .string t
  have number : (Json.ofOption .nat s.timeForOneQuery).IsLegible := by
    cases s.timeForOneQuery with
    | none => exact .null
    | some n => exact .integer n
  refine .record fun m member => ?_
  simp only [List.mem_cons, List.not_mem_nil, or_false] at member
  rcases member with rfl | rfl | rfl | rfl | rfl
  · exact text _
  · exact text _
  · exact text _
  · exact number
  · exact text _

/-- Settings are read from the JSON that they are written as, if their number has 64 bits. -/
theorem ofJson?_toJson {s : Settings} (bounded : ∀ n ∈ s.timeForOneQuery, n < 2 ^ 64) :
    ofJson? s.toJson = some s := by
  have text : ∀ t : Option String,
      Json.optional? Json.string? (Json.ofOption .string t) = some t := fun t =>
    Json.optional?_ofOption (fun _ _ => rfl) nofun
  have number : Json.optional? (Json.natBelow? 64) (Json.ofOption .nat s.timeForOneQuery) =
      some s.timeForOneQuery := by
    refine Json.optional?_ofOption (fun n isTime => ?_) nofun
    have inRange : (0 : Int) ≤ n ∧ (n : Int) < 2 ^ 64 := by
      have := bounded n isTime
      omega
    rw [Json.nat, Json.natBelow?, if_pos inRange, Int.toNat_natCast]
  have distinct : names.Nodup := by decide
  have fields : Json.fields? names s.toJson = some
      [.present (.ofOption .string s.allowedDivergence),
        .present (.ofOption .string s.exceedPercent), .present (.ofOption .string s.minimumTime),
        .present (.ofOption .nat s.timeForOneQuery), .present (.ofOption .string s.resultMode)] :=
    Json.fields?_record distinct
  simp [ofJson?, fields, Json.Slot.withDefault, text, number]

/-- Settings that are saved as JSON are loaded again. -/
theorem load_of_save (s : Settings) (fileName : String)
    (bounded : ∀ n ∈ s.timeForOneQuery, n < 2 ^ 64)
    (notToml : extensionOf fileName ≠ some "toml") (notYaml : extensionOf fileName ≠ some "yaml")
    (notYml : extensionOf fileName ≠ some "yml") :
    ∃ content, s.save fileName = .ok content ∧ load fileName (some content) = .ok s := by
  have json : SettingsFormat.ofExtension (extensionOf fileName) = .json := by
    unfold SettingsFormat.ofExtension
    split
    next toml => exact absurd toml notToml
    next yaml => exact absurd yaml notYaml
    next yml => exact absurd yml notYml
    next => rfl
  have read : read? .json s.toJson.pretty = some s := by
    rw [read?, Json.parse?_pretty s.isLegible_toJson, Option.bind_some, ofJson?_toJson bounded]
  refine ⟨s.toJson.pretty, ?_, ?_⟩
  · rw [save, json]
  · rw [load, json, read]

/-- The texts hold what has to be escaped, a character of four bytes and nothing at all; the number
is the greatest one. -/
theorem load_of_save_escapes :
    let s : Settings :=
      ⟨some "\"\\/\x08\x0c\n\r\t\x00\x1f\x7f", some "é😀", some "", some (2 ^ 64 - 1), none⟩
    ((∀ n ∈ s.timeForOneQuery, n < 2 ^ 64) ∧ extensionOf "policy.toml.TOML" ≠ some "toml" ∧
      extensionOf "policy.toml.TOML" ≠ some "yaml" ∧ extensionOf "policy.toml.TOML" ≠ some "yml") ∧
      ∃ content, s.save "policy.toml.TOML" = .ok content ∧
        load "policy.toml.TOML" (some content) = .ok s := by
  intro s
  have bounded : ∀ n ∈ s.timeForOneQuery, n < 2 ^ 64 := by
    intro n isTime
    cases isTime
    decide
  have extension : extensionOf "policy.toml.TOML" = some "TOML" := by decide +kernel
  have toml : extensionOf "policy.toml.TOML" ≠ some "toml" := by rw [extension]; decide
  have yaml : extensionOf "policy.toml.TOML" ≠ some "yaml" := by rw [extension]; decide
  have yml : extensionOf "policy.toml.TOML" ≠ some "yml" := by rw [extension]; decide
  exact ⟨⟨bounded, toml, yaml, yml⟩, load_of_save s _ bounded toml yaml yml⟩

end Settings
end QueryRegression
