import DeepLinks.Location
import DeepLinks.Proofs.UrlPieces

/-!
# Paths of locations

The segments of a location are decoded from the pieces of a path that has been resolved. Hence
none of them is empty, and none is one or two dots, however the dots were written.
-/

namespace DeepLinks.Location

theorem pathSegments_render {ps : List Url.Path.Segment} (h : ∀ p ∈ ps, '/' ∉ p) :
    pathSegments (String.ofList (Url.Path.render ps)) =
      (ps.filter (· ≠ [])).mapM fun p => Percent.decode true (String.ofList p) := by
  simp [pathSegments, Url.Path.pieces_render h]

theorem ofUrl_eq_ok_iff {url : Url} {u : Location} :
    ofUrl url = .ok u ↔
      ∃ host path query, url.host = some host ∧ ¬ (url.isOpaque = true ∨ host = "") ∧
        pathSegments url.path = .ok path ∧ queryBindings (url.query.getD "") = .ok query ∧
        u = ⟨url.scheme, host, path, query⟩ := by
  unfold ofUrl
  cases url.host with
  | none => simp
  | some host =>
    dsimp only
    rw [ite_error_eq_ok_iff]
    cases pathSegments url.path with
    | error _ => simp
    | ok path =>
      cases queryBindings (url.query.getD "") with
      | error _ => simp
      | ok query =>
        simp only [ok_bind, pure_eq_ok, mapError_ok, Except.ok.injEq, Option.some.injEq]
        constructor
        · rintro ⟨hhost, rfl⟩
          exact ⟨host, path, query, rfl, hhost, rfl, rfl, rfl⟩
        · rintro ⟨_, _, _, rfl, hhost, rfl, rfl, rfl⟩
          exact ⟨hhost, rfl⟩

@[simp] theorem parse_eq_ok_iff {raw : String} {u : Location} :
    parse raw = .ok u ↔ ∃ url, Url.parse raw = .ok url ∧ ofUrl url = .ok u := by
  unfold parse
  cases Url.parse raw with
  | error _ => simp
  | ok url => simp

theorem of_mem_path {raw : String} {u : Location} (h : parse raw = .ok u) {s : String}
    (hs : s ∈ u.path) : s ≠ "" ∧ s ≠ "." ∧ s ≠ ".." := by
  obtain ⟨url, hurl, hu⟩ := parse_eq_ok_iff.mp h
  obtain ⟨host, path, query, hhost, -, hpath, -, rfl⟩ := ofUrl_eq_ok_iff.mp hu
  obtain ⟨_, -, hparts⟩ := Url.exists_hasParts hurl
  obtain ⟨pieces, hrender, hpieces⟩ := hparts.isResolved host hhost
  rw [hrender, pathSegments_render fun p hp => (hpieces p hp).1, mapM_eq_ok_iff] at hpath
  obtain ⟨piece, hmem, hdecode⟩ := exists_of_forall₂_right hpath s hs
  obtain ⟨hmem, hne⟩ := List.mem_filter.mp hmem
  obtain ⟨-, hself, hparent⟩ := hpieces piece hmem
  refine ⟨Percent.ne_empty_of_decode hdecode ?_, ?_, ?_⟩
  · simpa using hne
  · rintro rfl
    rw [Url.Path.isSelf_iff.mpr hdecode] at hself
    contradiction
  · rintro rfl
    rw [Url.Path.isParent_iff.mpr hdecode] at hparent
    contradiction

end DeepLinks.Location
