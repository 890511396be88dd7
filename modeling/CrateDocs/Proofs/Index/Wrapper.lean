import CrateDocs.Index.Load
import CrateDocs.Proofs.Index.Content
import CrateDocs.Proofs.Text.Lines
import CrateDocs.Proofs.Text.Utf8
import Mathlib

/-!
Scripts that carry a search index. The entries of an index are written on lines of their own or all
on one line; either script is read as the object that has these entries.
-/

namespace CrateDocs.Index

variable {entries : List (List Char)}

namespace Wrapper

theorem escape_append (s t : List Char) : escape (s ++ t) = escape s ++ escape t :=
  List.flatMap_append

def object (entries : List (List Char)) : List Char :=
  '\x7b' :: [','].intercalate entries ++ ['\x7d']

def continued : List (List Char) → List (List Char)
  | [] => []
  | [e] => [escape e ++ ['\\']]
  | e :: f :: r => (escape e ++ [',', '\\']) :: continued (f :: r)

def manyLines (entries : List (List Char)) : List (List Char) :=
  startLine :: continued entries ++ [endLine]

def oneLine (entries : List (List Char)) : List Char :=
  opening ++ escape (object entries) ++ "');".toList

theorem dropContinuation_append (s : List Char) : dropContinuation (s ++ ['\\']) = s := by
  simp [dropContinuation]

theorem ne_endLine_of_continued (s : List Char) : s ++ ['\\'] ≠ endLine := by
  intro h
  have hlast : (s ++ ['\\']).getLast? = endLine.getLast? := congrArg List.getLast? h
  rw [List.getLast?_concat] at hlast
  exact absurd hlast (by decide)

theorem body?_cons (s : List Char) (r : List (List Char)) :
    body? ((s ++ ['\\']) :: r) = (body? r).map (s ++ ·) := by
  rw [body?, if_neg (ne_endLine_of_continued s), dropContinuation_append]

theorem body?_continued (entries after : List (List Char)) :
    body? (continued entries ++ endLine :: after) =
      some (escape ([','].intercalate entries) ++ ['\x7d']) := by
  induction entries with
  | nil => simp [continued, body?, escape]
  | cons e r ih =>
    cases r with
    | nil =>
      rw [continued, List.singleton_append, body?_cons]
      simp [body?]
    | cons f r =>
      have hcons : [','].intercalate (e :: f :: r) = e ++ ',' :: [','].intercalate (f :: r) := by
        simp [List.intercalate_cons_cons]
      have hline : escape e ++ [',', '\\'] = (escape e ++ [',']) ++ ['\\'] := by simp
      rw [continued, List.cons_append, hline, body?_cons, ih, hcons, escape_append]
      simp [escape]

theorem escape_object (entries : List (List Char)) :
    escape (object entries) =
      '\x7b' :: (escape ([','].intercalate entries) ++ ['\x7d']) := by
  simp [object, escape]

theorem content_manyLines {before : List (List Char)} (h : startLine ∉ before)
    (entries after : List (List Char)) :
    content (before ++ manyLines entries ++ after) =
      .found "multi-line" (escape (object entries)) := by
  have hlines : before ++ manyLines entries ++ after =
      before ++ startLine :: (continued entries ++ endLine :: after) := by simp [manyLines]
  rw [hlines, content, afterStart?_append h]
  simp only [body?_continued, escape_object]

def quoted (text : List Char) : List Char := opening ++ escape text ++ "');".toList

theorem onOneLine?_quoted (text : List Char) : onOneLine? (quoted text) = some (escape text) :=
  onOneLine?_eq_some_iff.mpr ⟨[';'], [], .inr rfl, by simp, by simp [quoted]⟩

theorem getLast?_quoted (text : List Char) : (quoted text).getLast? = some ';' := by
  rw [quoted, List.getLast?_append]
  rfl

theorem ne_startLine_of_getLast? {line : List Char} (h : line.getLast? = some ';') :
    line ≠ startLine := by
  intro he
  rw [he] at h
  exact absurd h (by decide)

theorem carries_quoted (text : List Char) : Carries [quoted text] (escape text) := by
  have hstart : quoted text ≠ startLine := ne_startLine_of_getLast? (getLast?_quoted text)
  have hline : IsOneLine (quoted text) (escape text) := onOneLine?_eq_some_iff.mp (onOneLine?_quoted text)
  exact @Carries.line [] [] _ _ (by simpa using hstart.symm) (by simp) hline

theorem content_quoted (text : List Char) :
    content [quoted text] = .found "single-line" (escape text) := by
  have hstart : quoted text ≠ startLine := ne_startLine_of_getLast? (getLast?_quoted text)
  simp [content, afterStart?, hstart, onOneLine?_quoted]

theorem content_oneLine (entries : List (List Char)) :
    content [oneLine entries] = .found "single-line" (escape (object entries)) :=
  content_quoted (object entries)

end Wrapper

def Error.withoutPath : Error → Error
  | .malformed _ c => .malformed none c
  | e => e

theorem result_ofBytes_found {ls : List (List Char)} {s text : List Char} {layout : String}
    (hs : Text.Lined ls s) (h : Wrapper.content ls = .found layout text) (path : Path) :
    (ofBytes path (Text.Utf8.encode s)).result =
      (ofText (some path) (Wrapper.unescape text)).result.map some := by
  simp only [ofBytes, Text.Utf8.decode_encode, Text.lines_of_lined hs, h, Traced.result_bind]
  cases (ofText (some path) (Wrapper.unescape text)).result <;> rfl

theorem result_ofBytes_lines {ls : List (List Char)} {s text : List Char} {layout : String}
    (hs : Text.Lined ls s) (h : Wrapper.content ls = .found layout (Wrapper.escape text))
    (path : Path) :
    (ofBytes path (Text.Utf8.encode s)).result = (ofText (some path) text).result.map some := by
  rw [result_ofBytes_found hs h, Wrapper.unescape_escape]

theorem withoutPath_ofJsonError (source : Option Path) (s : List Char) (e : Json.Error) :
    (ofJsonError source s e).withoutPath = ofJsonError none s e := by
  cases e <;> rfl

theorem withoutPath_decodePackage (source : Option Path) (name : String) (v : Json.Value) :
    (decodePackage source name v).result.mapError Error.withoutPath =
      (decodePackage none name v).result := by
  simp only [decodePackage, Traced.result_notes_bind]
  cases (decodeWith v Format.all).2 <;> rfl

theorem withoutPath_decodePackages (source : Option Path) (ms : List (String × Json.Value)) :
    (decodePackages source ms).result.mapError Error.withoutPath =
      (decodePackages none ms).result := by
  induction ms with
  | nil => rfl
  | cons m r ih =>
    obtain ⟨name, v⟩ := m
    simp only [decodePackages, Traced.result_bind, ← withoutPath_decodePackage source name v, ← ih]
    cases (decodePackage source name v).result with
    | error e => rfl
    | ok p =>
      cases (decodePackages source r).result <;> rfl

theorem withoutPath_ofText (source : Option Path) (s : List Char) :
    (ofText source s).result.mapError Error.withoutPath = (ofText none s).result := by
  unfold ofText
  cases Json.parse s with
  | error e => exact congrArg Except.error (withoutPath_ofJsonError source s e)
  | ok v =>
    cases v with
    | object ms =>
      simp only [Traced.result_bind, ← withoutPath_decodePackages source ms]
      cases (decodePackages source ms).result <;> rfl
    | _ => rfl

theorem ofBytes_manyLines {before after : List (List Char)} {s t : List Char}
    (hbefore : Wrapper.startLine ∉ before)
    (hs : Text.Lined (before ++ Wrapper.manyLines entries ++ after) s)
    (ht : Text.Lined [Wrapper.oneLine entries] t) (path : Path) :
    (ofBytes path (Text.Utf8.encode s)).result.mapError Error.withoutPath =
        (ofText none (Wrapper.object entries)).result.map some ∧
      (ofBytes path (Text.Utf8.encode s)).result = (ofBytes path (Text.Utf8.encode t)).result := by
  have hmany := result_ofBytes_lines hs (Wrapper.content_manyLines hbefore entries after) path
  have hone := result_ofBytes_lines ht (Wrapper.content_oneLine entries) path
  refine ⟨?_, hmany.trans hone.symm⟩
  rw [hmany, ← withoutPath_ofText (some path)]
  cases (ofText (some path) (Wrapper.object entries)).result <;> rfl

def quotedEntries : List (List Char) :=
  ["\"rand\":\x7b\"i\":[[5,\"f\",\"rand\",\"it's a \\\\\",null]],\"p\":[]\x7d".toList,
    "\"std\":\x7b\"i\":[[5,\"g\",\"std\",\"\",null]],\"p\":[],\"doc\":\"\\\\\"\x7d".toList]

def quotedIndex : Index :=
  ⟨[("rand", ⟨[⟨.function, "f", "rand", "it's a \\", none⟩], []⟩),
    ("std", ⟨[⟨.function, "g", "std", "", none⟩], []⟩)]⟩

set_option maxRecDepth 100000 in
theorem result_ofText_quoted :
    (ofText none (Wrapper.object quotedEntries)).result = .ok quotedIndex := rfl

def quotedScript : List Char :=
  Text.unlines (["// packages".toList] ++ Wrapper.manyLines quotedEntries ++ [[]])

theorem ofBytes_manyLines_quoted :
    Wrapper.startLine ∉ ["// packages".toList] ∧
      (ofBytes ⟨"/", []⟩ (Text.Utf8.encode quotedScript)).result.mapError Error.withoutPath =
        (ofText none (Wrapper.object quotedEntries)).result.map some ∧
      (ofBytes ⟨"/", []⟩ (Text.Utf8.encode quotedScript)).result =
        (ofBytes ⟨"/", []⟩ (Text.Utf8.encode
          (Text.unlines [Wrapper.oneLine quotedEntries]))).result ∧
      (ofText none (Wrapper.object quotedEntries)).result = .ok quotedIndex ∧
      quotedIndex.names = ["rand::f", "std::g"] ∧
      quotedIndex.find "f" = [⟨"rand", "f", "it's a \\", some .function⟩] := by
  have hstart : Wrapper.startLine ∉ ["// packages".toList] := by decide
  have hmany : Text.Lined (["// packages".toList] ++ Wrapper.manyLines quotedEntries ++ [[]])
      quotedScript :=
    Text.lined_unlines (by decide)
  have hone : Text.Lined [Wrapper.oneLine quotedEntries]
      (Text.unlines [Wrapper.oneLine quotedEntries]) :=
    Text.lined_unlines (by decide)
  obtain ⟨htext, hlines⟩ := ofBytes_manyLines hstart hmany hone ⟨"/", []⟩
  exact ⟨hstart, htext, hlines, result_ofText_quoted, by cbv, by cbv⟩

end CrateDocs.Index
