import DiagnosticCatalog.Proofs.Settings.Load
/-!
One document in files of both formats. They are judged alike, but for a document that counts as
nothing and is no mapping: as YAML it is taken for one without entries, and as JSON it is refused.
-/

namespace DiagnosticCatalog

namespace Settings

/-- The file can be read, is of the format, and holds the document. -/
inductive Holds (source : FileSource) (path : String) (f : Format) (v : Value) : Prop
  | file {octets : ByteArray} {s : String} : Format.ofPath (PathText.normalize path) = f →
      fetch source (PathText.normalize path) = .ok octets → decode octets = .ok s →
      f.read (PathText.normalize path) s = .ok v → Holds source path f v

/-- The same settings, or the same fault, each time with the path of the file. -/
inductive Alike (p q : String) : Except Failure Settings → Except Failure Settings → Prop
  | settings (s : Settings) : Alike p q (.ok s) (.ok s)
  | fault (c : SettingsCause) :
      Alike p q (.error (.settings ⟨some p, c⟩)) (.error (.settings ⟨some q, c⟩))

/-- What comes of a document that is no mapping. -/
def refusal (path : String) (v : Value) : Except Failure Settings :=
  .error (.settings ⟨some path, .complaint ⟨[], .notMapping v⟩⟩)

section

variable {source : FileSource} {path : String} {f : Format} {v : Value}

theorem Holds.load (h : Holds source path f v) :
    load source path = ofDocument (some (PathText.normalize path)) (f.document v) := by
  obtain ⟨hf, hfetch, hdecode, hread⟩ := h
  rw [load_of_decode hfetch hdecode, settle_of_ok hf hread]

/-- No number that JSON text brings has too many digits. -/
theorem Holds.exists_json (h : Holds source path .json v) :
    ∃ j, v = .ofJson j ∧ (Value.ofJson j).isWritable = true := by
  obtain @⟨_, s, -, -, -, hread⟩ := h
  rw [Format.read] at hread
  rcases Json.read_cases s with ⟨j, hj, hwritable⟩ | hmalformed | ⟨n, hlong, _⟩
  · rw [hj] at hread
    exact ⟨j, (Except.ok.inj hread).symm, hwritable⟩
  · rw [hmalformed] at hread
    cases hread
  · rw [hlong] at hread
    cases hread

/-- A document that counts as something, or is a mapping, is judged as it stands. -/
theorem Format.document_eq (h : v.isFalsy = true → ∃ es, v = .map es) : f.document v = v := by
  cases f with
  | json => rfl
  | yaml =>
      rw [document]
      split
      · obtain ⟨es, rfl⟩ := h ‹_›
        have hes : es = [] := List.isEmpty_iff.1 ‹_›
        rw [hes]
      · rfl

/-- The path of a document has no part in its judgement. -/
theorem alike_ofDocument (h : isJudgeable v = true) (p q : String) :
    Alike p q (ofDocument (some p) v) (ofDocument (some q) v) := by
  rcases ofDocument_cases h with ⟨s, hs⟩ | ⟨c, hc⟩
  · rw [hs, hs]
    exact .settings s
  · rw [hc, hc]
    exact .fault _

theorem ofDocument_of_not_map {j : Json} (hj : (Value.ofJson j).isWritable = true)
    (h : ∀ es, Value.ofJson j ≠ .map es) (p : String) :
    ofDocument (some p) (.ofJson j) = refusal p (.ofJson j) := by
  refine ofDocument_of_complaint (isJudgeable_ofJson hj) ?_ (some p)
  cases j with
  | object ms => exact absurd rfl (h _)
  | _ => rfl

end

section

variable {source source' : FileSource} {path path' : String} {v : Value}

/-- What is no mapping is refused as JSON always, and as YAML where it counts as something. -/
theorem load_of_not_map (hyaml : Holds source path .yaml v) (hjson : Holds source' path' .json v)
    (hmap : ∀ es, v ≠ .map es) :
    load source' path' = refusal (PathText.normalize path') v ∧
    load source path = if v.isFalsy then .ok blank else refusal (PathText.normalize path) v := by
  obtain ⟨j, rfl, hj⟩ := hjson.exists_json
  rw [hyaml.load, hjson.load]
  refine ⟨ofDocument_of_not_map hj hmap _, ?_⟩
  rw [Format.document]
  split
  · have hempty : readEntries [] = .ok blank := readEntries_eq_ok_iff.2 ⟨nofun, rfl⟩
    exact hempty
  · exact ofDocument_of_not_map hj hmap _

/-- One document in a file of each format. The files are judged alike just where the document counts
as something or is a mapping. What is no mapping is refused as JSON always, and as YAML where it
counts as something. -/
theorem load_formats (hyaml : Holds source path .yaml v) (hjson : Holds source' path' .json v) :
    (Alike (PathText.normalize path) (PathText.normalize path') (load source path)
        (load source' path') ↔ (v.isFalsy = true → ∃ es, v = .map es)) ∧
    ((∀ es, v ≠ .map es) →
      load source' path' = refusal (PathText.normalize path') v ∧
      load source path =
        if v.isFalsy then .ok blank else refusal (PathText.normalize path) v) := by
  refine ⟨⟨fun halike hfalsy => ?_, fun h => ?_⟩, load_of_not_map hyaml hjson⟩
  · by_contra hmap
    obtain ⟨hjson, hyaml⟩ := load_of_not_map hyaml hjson (not_exists.1 hmap)
    rw [hjson, hyaml, if_pos hfalsy] at halike
    cases halike
  · obtain ⟨j, rfl, hj⟩ := hjson.exists_json
    rw [hyaml.load, hjson.load, Format.document_eq h, Format.document_eq h]
    exact alike_ofDocument (isJudgeable_ofJson hj) _ _

end

/-! ## One text in files of both formats -/

/-- A file, whatever its name, with the text. -/
def sameText (s : String) : FileSource := fun _ => .ok s.toUTF8

theorem decode_toUTF8 {s : String} (h : unifyBreaks s.toList = s.toList) :
    decode s.toUTF8 = .ok s := by
  have hoctets : String.fromUTF8? s.toUTF8 = some s := dif_pos s.isValidUTF8
  simp only [decode, hoctets, h, String.ofList_toList]

theorem holds_sameText {s path : String} {f : Format} {v : Value}
    (hpath : PathText.normalize path = path) (hnull : path.toList.contains (Char.ofNat 0) = false)
    (hf : Format.ofPath path = f) (hbreaks : unifyBreaks s.toList = s.toList)
    (hread : f.read path s = .ok v) : Holds (sameText s) path f v := by
  refine .file (hpath.symm ▸ hf) ?_ (decode_toUTF8 hbreaks) (hpath.symm ▸ hread)
  rw [hpath, fetch, hnull]
  rfl

theorem holds_yaml {s : String} {v : Value} (hbreaks : unifyBreaks s.toList = s.toList)
    (hread : Format.yaml.read "c.yaml" s = .ok v) : Holds (sameText s) "c.yaml" .yaml v :=
  holds_sameText (by decide +kernel) (by decide +kernel) (by decide +kernel) hbreaks hread

theorem holds_json {s : String} {v : Value} (hbreaks : unifyBreaks s.toList = s.toList)
    (hread : Format.json.read "c.json" s = .ok v) : Holds (sameText s) "c.json" .json v :=
  holds_sameText (by decide +kernel) (by decide +kernel) (by decide +kernel) hbreaks hread

/-- JSON text that is YAML text too. -/
def sampleText : String := "\x7b\"severities\": \x7b\"error\": 7, \"warn\": []\x7d\x7d"

def sampleContent : Value :=
  .map [(.text "severities", .map [(.text "error", .whole 7), (.text "warn", .list [])])]

def isSample : Value → Bool
  | .map [(.text k, .map [(.text s, .whole 7), (.text t, .list [])])] =>
    k = "severities" && s = "error" && t = "warn"
  | _ => false

theorem eq_of_isSample {v : Value} (h : isSample v = true) : v = sampleContent := by
  unfold isSample at h
  split at h
  · simp only [Bool.and_eq_true, decide_eq_true_eq] at h
    obtain ⟨⟨rfl, rfl⟩, rfl⟩ := h
    rfl
  · cases h

theorem read_of_isSample {x : Except Failure Value} (h : x.toOption.any isSample = true) :
    x = .ok sampleContent := by
  cases x with
  | error e => cases h
  | ok v => rw [eq_of_isSample h]

/-- A mapping that is of use, and a truth value that is not. -/
theorem load_formats_sample :
    Alike "c.yaml" "c.json" (load (sameText sampleText) "c.yaml")
      (load (sameText sampleText) "c.json") ∧
    load (sameText "true") "c.json" = refusal "c.json" (.truth true) ∧
    load (sameText "true") "c.yaml" = refusal "c.yaml" (.truth true) := by
  have hmapping := load_formats
    (holds_yaml (s := sampleText) (by decide +kernel) (read_of_isSample (by decide +kernel)))
    (holds_json (s := sampleText) (by decide +kernel) (read_of_isSample (by decide +kernel)))
  have hyaml : Holds (sameText "true") "c.yaml" .yaml (.truth true) :=
    holds_yaml (by decide +kernel) (by rfl)
  have hjson : Holds (sameText "true") "c.json" .json (.truth true) :=
    holds_json (by decide +kernel) (by rfl)
  exact ⟨hmapping.1.2 fun _ => ⟨_, rfl⟩, (load_formats hyaml hjson).2 (by simp)⟩

/-- A list of nothing is read as YAML, as though the file were empty, and refused as JSON. -/
theorem load_empty_list :
    Holds (sameText "[]") "c.yaml" .yaml (.list []) ∧
    Holds (sameText "[]") "c.json" .json (.list []) ∧
    load (sameText "[]") "c.yaml" = .ok blank ∧
    load (sameText "[]") "c.json" = refusal "c.json" (.list []) := by
  have hyaml : Holds (sameText "[]") "c.yaml" .yaml (.list []) :=
    holds_yaml (by decide +kernel) (by rfl)
  have hjson : Holds (sameText "[]") "c.json" .json (.list []) :=
    holds_json (by decide +kernel) (by rfl)
  obtain ⟨hrefused, hread⟩ := load_of_not_map hyaml hjson (by simp)
  exact ⟨hyaml, hjson, hread, hrefused⟩

end Settings

end DiagnosticCatalog
