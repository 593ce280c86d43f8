import DiagnosticCatalog.Proofs.Json.Reader
import DiagnosticCatalog.Proofs.Settings.Grammar
import DiagnosticCatalog.Settings.File
/-!
What comes of loading settings from a file: settings, or a fault of settings that has the path with
it, unless the path, the octets or a number or scalar in the text bring a failure of their own, which
is handed on as it is.
-/

namespace DiagnosticCatalog

namespace Settings

/-- Failures that are handed on, each with where it arises. A path holds a null character; octets are
no text; JSON text has a run of too many digits; a scalar of YAML text has no value, or the document
has a number with too many digits to be spelt. -/
inductive HandsOn (source : FileSource) (path : String) : Failure → Prop
  | path : Char.ofNat 0 ∈ path.toList → HandsOn source path .path
  | encoding {octets : ByteArray} : fetch source path = .ok octets → ¬octets.IsValidUTF8 →
      HandsOn source path .encoding
  | digits {octets : ByteArray} {s : String} {n : Nat} : Format.ofPath path = .json →
      fetch source path = .ok octets → decode octets = .ok s →
      Json.read s = .error (.overlong (.reading n)) → Json.HasRun n s.toList →
      HandsOn source path (.overlong (.reading n))
  | scalar {octets : ByteArray} {s : String} {e : ScalarFault} : Format.ofPath path = .yaml →
      fetch source path = .ok octets → decode octets = .ok s →
      Yaml.read s = .error (.scalar e) → HandsOn source path (.scalar e)
  | number {octets : ByteArray} {s : String} {v : Value} : Format.ofPath path = .yaml →
      fetch source path = .ok octets → decode octets = .ok s → Yaml.read s = .ok v →
      isJudgeable (Format.yaml.document v) = false → HandsOn source path (.overlong .writing)

/-- Settings, or a fault of settings at the path. -/
inductive IsAnswer (path : String) : Except Failure Settings → Prop
  | settings (s : Settings) : IsAnswer path (.ok s)
  | fault (c : SettingsCause) : IsAnswer path (.error (.settings ⟨some path, c⟩))

theorem isAnswer_ofDocument {v : Value} (h : isJudgeable v = true) (path : String) :
    IsAnswer path (ofDocument (some path) v) := by
  rcases ofDocument_cases h with ⟨s, hs⟩ | ⟨c, hc⟩
  · rw [hs]
    exact .settings s
  · rw [hc]
    exact .fault _

theorem decode_eq_error_iff {octets : ByteArray} {e : Failure} :
    decode octets = .error e ↔ ¬octets.IsValidUTF8 ∧ e = .encoding := by
  by_cases h : octets.IsValidUTF8
  · simp [decode, String.fromUTF8?, h]
  · simp [decode, String.fromUTF8?, h, eq_comm]

/-- A path is fetched from, or is refused for a null character, or leads to no file. -/
theorem fetch_cases (source : FileSource) (path : String) :
    (∃ octets, fetch source path = .ok octets) ∨ Char.ofNat 0 ∈ path.toList ∨
      ∃ e, fetch source path = .error (.settings ⟨some path, .file path e⟩) := by
  rw [fetch]
  split
  · rename_i hnull
    exact .inr (.inl (List.contains_iff_mem.1 hnull))
  · cases source path with
    | ok octets => exact .inl ⟨octets, rfl⟩
    | error e => exact .inr (.inr ⟨e, rfl⟩)

/-- What is made of a text from a path. -/
def settle (path : String) (s : String) : Except Failure Settings :=
  (Format.ofPath path).read path s >>= ofFormat path (Format.ofPath path)

section

variable {source : FileSource} {path : String} {octets : ByteArray} {s : String} {e : Failure}

theorem load_of_fetch (h : fetch source (PathText.normalize path) = .error e) :
    load source path = .error e := by
  simp only [load, h, bind, Except.bind]

theorem load_of_invalid (hfetch : fetch source (PathText.normalize path) = .ok octets)
    (h : decode octets = .error e) : load source path = .error e := by
  simp only [load, hfetch, h, bind, Except.bind]

theorem load_of_decode (hfetch : fetch source (PathText.normalize path) = .ok octets)
    (h : decode octets = .ok s) : load source path = settle (PathText.normalize path) s := by
  simp only [load, hfetch, h, bind, Except.bind, settle]

theorem settle_of_error {f : Format} (hf : Format.ofPath path = f) (h : f.read path s = .error e) :
    settle path s = .error e := by
  simp only [settle, hf, h, bind, Except.bind]

theorem settle_of_ok {f : Format} (hf : Format.ofPath path = f) {v : Value}
    (h : f.read path s = .ok v) : settle path s = ofDocument (some path) (f.document v) := by
  simp only [settle, hf, h, bind, Except.bind, ofFormat]

/-- From JSON text only a run of too many digits keeps an answer away. -/
theorem settle_json (hf : Format.ofPath path = .json) : IsAnswer path (settle path s) ∨
    ∃ n, Json.read s = .error (.overlong (.reading n)) ∧ Json.HasRun n s.toList := by
  rcases Json.read_cases s with ⟨j, hj, hwritable⟩ | hread | hrun
  · have hok : Format.json.read path s = .ok (.ofJson j) := by rw [Format.read, hj]
    rw [settle_of_ok hf hok]
    exact .inl (isAnswer_ofDocument (isJudgeable_ofJson hwritable) path)
  · have herror : Format.json.read path s = .error (.settings ⟨some path, .malformed⟩) := by
      rw [Format.read, hread]
    rw [settle_of_error hf herror]
    exact .inl (.fault _)
  · exact .inr hrun

/-- From YAML text only a scalar or a number keeps an answer away. -/
theorem settle_yaml (hf : Format.ofPath path = .yaml) : IsAnswer path (settle path s) ∨
    (∃ e, Yaml.read s = .error (.scalar e)) ∨
      ∃ v, Yaml.read s = .ok v ∧ isJudgeable (Format.yaml.document v) = false := by
  cases hread : Yaml.read s with
  | ok v =>
      have hok : Format.yaml.read path s = .ok v := by rw [Format.read, hread]
      cases hjudge : isJudgeable (Format.yaml.document v) with
      | true =>
          rw [settle_of_ok hf hok]
          exact .inl (isAnswer_ofDocument hjudge path)
      | false => exact .inr (.inr ⟨v, rfl, hjudge⟩)
  | error e =>
      cases e with
      | malformed =>
          have herror : Format.yaml.read path s = .error (.settings ⟨some path, .malformed⟩) := by
            rw [Format.read, hread]
          rw [settle_of_error hf herror]
          exact .inl (.fault _)
      | scalar e => exact .inr (.inl ⟨e, rfl⟩)

/-- What is handed on comes out. -/
theorem HandsOn.load (h : HandsOn source (PathText.normalize path) e) :
    load source path = .error e := by
  cases h with
  | path hnull =>
      refine load_of_fetch ?_
      rw [fetch, if_pos (List.contains_iff_mem.2 hnull)]
  | encoding hfetch hoctets =>
      exact load_of_invalid hfetch (decode_eq_error_iff.2 ⟨hoctets, rfl⟩)
  | digits hf hfetch hdecode hread _ =>
      rw [load_of_decode hfetch hdecode]
      exact settle_of_error hf (by rw [Format.read, hread])
  | scalar hf hfetch hdecode hread =>
      rw [load_of_decode hfetch hdecode]
      exact settle_of_error hf (by rw [Format.read, hread])
  | number hf hfetch hdecode hread hjudge =>
      rw [load_of_decode hfetch hdecode, settle_of_ok hf (by rw [Format.read, hread]), ofDocument,
        hjudge]
      rfl

theorem isAnswer_or_handsOn (source : FileSource) (path : String) :
    IsAnswer (PathText.normalize path) (Settings.load source path) ∨
      ∃ e, HandsOn source (PathText.normalize path) e := by
  rcases fetch_cases source (PathText.normalize path) with ⟨octets, hfetch⟩ | hnull | ⟨e, hfetch⟩
  · cases hdecode : decode octets with
    | error e => exact .inr ⟨_, .encoding hfetch (decode_eq_error_iff.1 hdecode).1⟩
    | ok s =>
        rw [load_of_decode hfetch hdecode]
        cases hf : Format.ofPath (PathText.normalize path) with
        | json =>
            refine (settle_json hf).imp_right ?_
            rintro ⟨n, hread, hrun⟩
            exact ⟨_, .digits hf hfetch hdecode hread hrun⟩
        | yaml =>
            refine (settle_yaml hf).imp_right ?_
            rintro (⟨e, hread⟩ | ⟨v, hread, hjudge⟩)
            · exact ⟨_, .scalar hf hfetch hdecode hread⟩
            · exact ⟨_, .number hf hfetch hdecode hread hjudge⟩
  · exact .inr ⟨_, .path hnull⟩
  · rw [load_of_fetch hfetch]
    exact .inl (.fault _)

end

/-- Settings or a fault of settings at the path come out just if nothing is handed on, and what is
handed on comes out as it is. -/
theorem load_isAnswer_iff (source : FileSource) (path : String) :
    (IsAnswer (PathText.normalize path) (load source path) ↔
        ∀ e, ¬HandsOn source (PathText.normalize path) e) ∧
      ∀ e, HandsOn source (PathText.normalize path) e → load source path = .error e := by
  refine ⟨⟨fun hanswer e h => ?_, fun hnone => ?_⟩, fun e h => h.load⟩
  · rw [h.load] at hanswer
    cases hanswer
    cases h
  · refine (isAnswer_or_handsOn source path).resolve_right ?_
    rintro ⟨e, h⟩
    exact hnone e h

/-- A day that its month does not have. -/
example : (match load (fun _ => .ok "2001-02-30".toUTF8) "c.yaml" with
    | .error (.scalar e) => e = .calendar .day
    | _ => false) = true := by decide +kernel

/-- A file, whatever its name, with one octet that stands in no text. -/
def loneOctet : FileSource := fun _ => .ok ⟨#[0xFF]⟩

/-- Octets that are no text are no fault of settings. -/
theorem load_loneOctet :
    load loneOctet "c.json" = .error .encoding ∧ ¬IsAnswer "c.json" (load loneOctet "c.json") := by
  have hpath : PathText.normalize "c.json" = "c.json" := by decide +kernel
  have hnull : ¬("c.json".toList.contains (Char.ofNat 0)) = true := by decide +kernel
  have hfetch : fetch loneOctet (PathText.normalize "c.json") = .ok ⟨#[0xFF]⟩ := by
    rw [hpath, fetch, if_neg hnull]
    rfl
  have hoctet : ¬(⟨#[0xFF]⟩ : ByteArray).IsValidUTF8 := by decide +kernel
  have hload : load loneOctet "c.json" = .error .encoding := (HandsOn.encoding hfetch hoctet).load
  refine ⟨hload, fun hanswer => ?_⟩
  rw [hload] at hanswer
  cases hanswer

end Settings

end DiagnosticCatalog
