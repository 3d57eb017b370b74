import DeepLinks.Proofs.Binding
import DeepLinks.Proofs.LocationPath
import Mathlib

/-!
# From a URL to its location

A URL has texts to decode, first the pieces of its path and then the values of its query. They are
decoded one after another, and the first one that cannot be decoded is reported. Keys are not
decoded, and a value is decoded even if its key is bound already.
-/

namespace DeepLinks.Location

/-- Decodes a text of a path or a query, in which a plus sign is a space. -/
def decodeText (text : List Char) : Except Percent.DecodeError String :=
  Percent.decode true (String.ofList text)

/-- The pieces of a path, empty ones left out. -/
def pathPieces (url : Url) : List (List Char) :=
  (Text.pieces '/' url.path.toList).filter (· ≠ [])

/-- The pieces of a query, empty ones left out. -/
def queryPieces (url : Url) : List (List Char) :=
  (Text.pieces '&' (url.query.getD "").toList).filter (· ≠ [])

/-- The text after the first equals sign in a piece of a query, if it has one. -/
def valueText? (piece : List Char) : Option (List Char) :=
  (Text.cut? '=' piece).map Prod.snd

/-- The texts that a URL has to decode, in the order in which it does. -/
def encodedTexts (url : Url) : List (List Char) :=
  pathPieces url ++ (queryPieces url).filterMap valueText?

/-- What a piece of a query says of a key: no value without an equals sign, otherwise the decoded
text after the first one. -/
def Says (piece : List Char) (key : String) : Option String → Prop
  | none => '=' ∉ piece ∧ piece = key.toList
  | some value => ∃ text, '=' ∉ key.toList ∧ piece = key.toList ++ '=' :: text ∧
      decodeText text = .ok value

/-- The location that a URL has: its scheme and its host, the decoded pieces of its path, and for
every key what the first piece of the query with this key says. -/
structure IsOf (u : Location) (url : Url) : Prop where
  scheme : u.scheme = url.scheme
  host : url.host = some u.host
  path : List.Forall₂ (fun piece s => decodeText piece = .ok s) (pathPieces url) u.path
  path_ne_empty : ∀ s ∈ u.path, s ≠ ""
  query : ∀ key value, u.query.find? key = some value ↔
    ∃ before piece after, queryPieces url = before ++ piece :: after ∧
      (∀ p ∈ before, p.takeWhile (· ≠ '=') ≠ key.toList) ∧ Says piece key value

@[simp] theorem valueText?_eq_none_iff {piece : List Char} :
    valueText? piece = none ↔ '=' ∉ piece := by
  simp [valueText?]

@[simp] theorem valueText?_eq_some_iff {piece text : List Char} :
    valueText? piece = some text ↔ ∃ key, '=' ∉ key ∧ piece = key ++ '=' :: text := by
  simp [valueText?, and_comm]

@[simp] theorem queryEntry_of_not_mem {piece : List Char} (h : '=' ∉ piece) :
    queryEntry piece = .ok (String.ofList piece, none) := by
  rw [queryEntry, Text.cut?_eq_none_iff.mpr h]

@[simp] theorem queryEntry_append {key : List Char} (h : '=' ∉ key) (text : List Char) :
    queryEntry (key ++ '=' :: text) =
      (decodeText text).map fun value => (String.ofList key, some value) := by
  have hcut : Text.cut? '=' (key ++ '=' :: text) = some (key, text) :=
    Text.cut?_eq_some_iff.mpr ⟨rfl, h⟩
  rw [queryEntry, hcut]
  show (decodeText text >>= fun value => pure (String.ofList key, some value)) = _
  cases decodeText text <;> rfl

/-- The key of an entry is the text before the first equals sign. -/
theorem key_of_queryEntry {piece : List Char} {entry : String × Option String}
    (h : queryEntry piece = .ok entry) : entry.1.toList = piece.takeWhile (· ≠ '=') := by
  cases htext : valueText? piece with
  | none =>
    have hequals := valueText?_eq_none_iff.mp htext
    rw [queryEntry_of_not_mem hequals] at h
    obtain rfl := Except.ok.inj h
    rw [Text.takeWhile_of_not_mem hequals, String.toList_ofList]
  | some text =>
    obtain ⟨key, hequals, rfl⟩ := valueText?_eq_some_iff.mp htext
    rw [queryEntry_append hequals] at h
    rw [Text.takeWhile_append_of_not_mem hequals]
    cases hvalue : decodeText text with
    | error cause =>
      rw [hvalue] at h
      contradiction
    | ok value =>
      rw [hvalue] at h
      obtain rfl := Except.ok.inj h
      rw [String.toList_ofList]

@[simp] theorem queryEntry_eq_ok_iff {piece : List Char} {key : String} {value : Option String} :
    queryEntry piece = .ok (key, value) ↔ Says piece key value := by
  constructor
  · intro h
    have hkey := key_of_queryEntry h
    cases htext : valueText? piece with
    | none =>
      have hequals := valueText?_eq_none_iff.mp htext
      rw [queryEntry_of_not_mem hequals] at h
      obtain ⟨rfl, rfl⟩ := Prod.mk.inj (Except.ok.inj h)
      exact ⟨hequals, String.toList_ofList.symm⟩
    | some text =>
      obtain ⟨k, hequals, rfl⟩ := valueText?_eq_some_iff.mp htext
      rw [Text.takeWhile_append_of_not_mem hequals] at hkey
      rw [queryEntry_append hequals] at h
      cases hvalue : decodeText text with
      | error cause =>
        rw [hvalue] at h
        contradiction
      | ok v =>
        rw [hvalue] at h
        obtain ⟨-, rfl⟩ := Prod.mk.inj (Except.ok.inj h)
        exact ⟨text, hkey ▸ hequals, by rw [hkey], hvalue⟩
  · intro h
    cases value with
    | none =>
      obtain ⟨hequals, rfl⟩ := h
      simp [hequals]
    | some value =>
      obtain ⟨text, hequals, rfl, hvalue⟩ := h
      rw [queryEntry_append hequals, hvalue, String.ofList_toList]
      rfl

/-- Reading the pieces of a query fails where decoding its values does. -/
theorem mapM_queryEntry (pieces : List (List Char)) :
    (pieces.mapM queryEntry).map (·.filterMap Prod.snd) =
      (pieces.filterMap valueText?).mapM decodeText := by
  induction pieces with
  | nil => rfl
  | cons p ps ih =>
    rw [List.mapM_cons]
    cases htext : valueText? p with
    | none =>
      simp only [List.filterMap_cons, htext, ← ih,
        queryEntry_of_not_mem (valueText?_eq_none_iff.mp htext), ok_bind]
      cases ps.mapM queryEntry <;> rfl
    | some text =>
      obtain ⟨key, hequals, rfl⟩ := valueText?_eq_some_iff.mp htext
      rw [List.filterMap_cons_some htext, List.mapM_cons, ← ih, queryEntry_append hequals]
      cases decodeText text with
      | error cause => rfl
      | ok value => cases ps.mapM queryEntry <;> rfl

/-- Of the entries of pieces the first one with a key counts. -/
theorem lookup_entries_iff {pieces : List (List Char)} {entries : List (String × Option String)}
    (h : List.Forall₂ (fun piece entry => queryEntry piece = .ok entry) pieces entries)
    (key : String) (value : Option String) :
    entries.lookup key = some value ↔
      ∃ before piece after, pieces = before ++ piece :: after ∧
        (∀ p ∈ before, p.takeWhile (· ≠ '=') ≠ key.toList) ∧ Says piece key value := by
  induction h with
  | nil => simp
  | @cons piece entry pieces entries hpiece _ ih =>
    have hkey : piece.takeWhile (· ≠ '=') ≠ key.toList ↔ key ≠ entry.1 := by
      rw [← key_of_queryEntry hpiece, ne_eq, String.toList_inj, eq_comm]
    have hsays : Says piece key value ↔ key = entry.1 ∧ entry.2 = value := by
      rw [← queryEntry_eq_ok_iff, hpiece, Except.ok.injEq, Prod.ext_iff, eq_comm]
    rw [exists_split_cons_iff (P := fun p => p.takeWhile (· ≠ '=') ≠ key.toList)
      (S := fun p => Says p key value), ← ih, hkey, hsays]
    by_cases heq : key = entry.1 <;> simp [heq]

theorem pathSegments_eq (url : Url) :
    pathSegments url.path = (pathPieces url).mapM decodeText := rfl

@[simp] theorem queryBindings_eq_ok_iff {url : Url} {b : Bindings} :
    queryBindings (url.query.getD "") = .ok b ↔
      ∃ entries, (queryPieces url).mapM queryEntry = .ok entries ∧
        b = entries.foldl (fun b e => b.insertIfNew e.1 e.2) ∅ := by
  rw [queryBindings, bind_eq_ok_iff]
  simp only [pure_eq_ok, Except.ok.injEq, eq_comm]
  rfl

/-- A URL with a host is read by decoding its texts, one after another. -/
theorem ofUrl_eq_error_iff {url : Url} {host : String} (hbase : url.isOpaque = false)
    (hhost : url.host = some host) (hne : host ≠ "") {e : LocationError} :
    ofUrl url = .error e ↔
      ∃ cause, (encodedTexts url).mapM decodeText = .error cause ∧ e = .undecodable cause := by
  have hquery : queryBindings (url.query.getD "") =
      ((queryPieces url).mapM queryEntry).map
        fun es => es.foldl (fun b e => b.insertIfNew e.1 e.2) ∅ := by
    rw [queryBindings]
    show ((queryPieces url).mapM queryEntry >>= _) = _
    cases (queryPieces url).mapM queryEntry <;> rfl
  rw [ofUrl, hhost, encodedTexts, List.mapM_append, ← mapM_queryEntry, ← pathSegments_eq, hquery]
  simp only [hbase, hne, Bool.false_eq_true, or_self, ↓reduceIte]
  cases pathSegments url.path with
  | error cause => simp [eq_comm]
  | ok path => cases (queryPieces url).mapM queryEntry <;> simp [eq_comm, Except.map]

theorem isOf_of_ofUrl {url : Url} {u : Location} (h : ofUrl url = .ok u) : u.IsOf url := by
  obtain ⟨host, path, query, hhost, -, hpath, hquery, rfl⟩ := ofUrl_eq_ok_iff.mp h
  rw [pathSegments_eq, mapM_eq_ok_iff] at hpath
  obtain ⟨entries, hentries, rfl⟩ := queryBindings_eq_ok_iff.mp hquery
  refine ⟨rfl, hhost, hpath, fun s hs => ?_, fun key value => ?_⟩
  · obtain ⟨piece, hpiece, hdecode⟩ := exists_of_forall₂_right hpath s hs
    have hne : piece ≠ [] := by simpa using List.of_mem_filter hpiece
    exact Percent.ne_empty_of_decode hdecode (by simpa using hne)
  · simpa using lookup_entries_iff (mapM_eq_ok_iff.mp hentries) key value

theorem exists_ofUrl_iff {url : Url} {host : String} (hbase : url.isOpaque = false)
    (hhost : url.host = some host) (hne : host ≠ "") :
    (∃ u, ofUrl url = .ok u) ↔ ∀ text ∈ encodedTexts url, ∃ s, decodeText text = .ok s := by
  have herror {e : LocationError} := ofUrl_eq_error_iff hbase hhost hne (e := e)
  rw [← exists_forall₂_iff]
  simp only [← mapM_eq_ok_iff]
  cases hu : ofUrl url with
  | error e =>
    obtain ⟨cause, hcause, -⟩ := herror.mp hu
    simp [hcause]
  | ok u =>
    cases htexts : (encodedTexts url).mapM decodeText with
    | error cause =>
      rw [herror.mpr ⟨cause, htexts, rfl⟩] at hu
      contradiction
    | ok texts => simp

/-- What becomes of a text that is a URL. Without a host it names no location, whatever its escapes.
With a host it names one exactly if all pieces of its path and all values in its query can be
decoded; then the location has the scheme and the host, the decoded pieces of the path, and for each
key of the query what the first piece with this key says. Otherwise the error is that of the first
text that cannot be decoded, the path before the query. -/
theorem parse_of_url {raw : String} {url : Url} (hurl : Url.parse raw = .ok url) :
    (url.isOpaque = true ∨ url.host = none ∨ url.host = some "" →
      parse raw = .error .missingHost) ∧
    ∀ host, url.isOpaque = false → url.host = some host → host ≠ "" →
      ((∃ u, parse raw = .ok u) ↔ ∀ text ∈ encodedTexts url, ∃ s, decodeText text = .ok s) ∧
      (∀ u, parse raw = .ok u → u.IsOf url) ∧
      ∀ e, parse raw = .error e ↔ ∃ before text after cause,
        encodedTexts url = before ++ text :: after ∧ (∀ t ∈ before, ∃ s, decodeText t = .ok s) ∧
        decodeText text = .error cause ∧ e = .undecodable cause := by
  have hparse : parse raw = ofUrl url := by rw [parse, hurl]
  rw [hparse]
  refine ⟨?_, fun host hbase hhost hne => ⟨exists_ofUrl_iff hbase hhost hne,
    fun u hu => isOf_of_ofUrl hu, fun e => ?_⟩⟩
  · rintro (hbase | hhost | hhost)
    · cases hhost : url.host <;> simp [ofUrl, hhost, hbase]
    · simp [ofUrl, hhost]
    · simp [ofUrl, hhost]
  · simp only [ofUrl_eq_error_iff hbase hhost hne, mapM_eq_error_iff]
    constructor
    · rintro ⟨cause, ⟨before, text, after, hsplit, hbefore, htext⟩, he⟩
      exact ⟨before, text, after, cause, hsplit, hbefore, htext, he⟩
    · rintro ⟨before, text, after, cause, hsplit, hbefore, htext, he⟩
      exact ⟨cause, ⟨before, text, after, hsplit, hbefore, htext⟩, he⟩

/-- The second value of a key cannot be decoded, and neither can a later one. -/
theorem parse_of_url_repeated :
    Url.parse "https://Example.com/a%20b//c+d?x=1&x=%zz&%zz&y=%FF" =
      .ok ⟨"https", some "example.com", "/a%20b//c+d", some "x=1&x=%zz&%zz&y=%FF", false⟩ ∧
    parse "https://Example.com/a%20b//c+d?x=1&x=%zz&%zz&y=%FF" =
      .error (.undecodable (.malformed "%zz")) := by
  have hurl : Url.parse "https://Example.com/a%20b//c+d?x=1&x=%zz&%zz&y=%FF" =
      .ok ⟨"https", some "example.com", "/a%20b//c+d", some "x=1&x=%zz&%zz&y=%FF", false⟩ := by cbv
  obtain ⟨-, -, herror⟩ := (parse_of_url hurl).2 "example.com" rfl rfl (by decide)
  refine ⟨hurl, (herror _).mpr ⟨["a%20b", "c+d", "1"].map String.toList, "%zz".toList,
    ["%FF".toList], .malformed "%zz", by decide +kernel, ?_, by cbv, rfl⟩⟩
  simp only [List.map_cons, List.map_nil, List.forall_mem_cons]
  exact ⟨⟨"a b", by cbv⟩, ⟨"c d", by cbv⟩, ⟨"1", by cbv⟩, by simp⟩

end DeepLinks.Location
