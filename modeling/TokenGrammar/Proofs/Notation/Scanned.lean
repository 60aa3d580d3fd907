import TokenGrammar.Proofs.Notation.Words
import TokenGrammar.Proofs.Text.Places

/-!
# Scanned tokens

The tokens of a text are its words with their places. If some characters form no token, one of the
tokens says so. A token lies inside the text.
-/
namespace TokenGrammar.Notation

def Token.piece (t : Token) : Piece := ⟨t.kind, t.text.toList⟩

theorem map_piece_locate (place : Place) (ps : List Piece) : (locate place ps).map Token.piece = ps := by
  induction ps generalizing place with
  | nil => rfl
  | cons p ps ih =>
      rw [locate, List.map_cons, ih, Token.piece, String.toList_ofList]

theorem map_piece_scan (origin : Place) (text : List Char) :
    (scan origin text).map Token.piece =
      (joinUnexpected (pieces text)).filter (!·.kind.isTrivia) := by
  have kept := List.filter_map (f := Token.piece) (p := (!·.kind.isTrivia))
    (l := locate origin (joinUnexpected (pieces text)))
  rw [map_piece_locate] at kept
  exact kept.symm

theorem joinUnexpected_cons {p : Piece} (h : p.kind ≠ .unexpectedFragment) (ps : List Piece) :
    joinUnexpected (p :: ps) = p :: joinUnexpected ps := by
  rw [joinUnexpected]
  split
  · next none => rw [none]
  · next q more joined => rw [if_neg fun both => h both.1, joined]

theorem meaningful_eq_some {ps qs : List Piece} (h : meaningful ps = some qs) :
    joinUnexpected ps = ps ∧ ps.filter (!·.kind.isTrivia) = qs := by
  induction ps generalizing qs with
  | nil =>
      cases h
      exact ⟨rfl, rfl⟩
  | cons p ps ih =>
      rw [meaningful] at h
      split at h
      · cases h
      · next token =>
          have joined (same : joinUnexpected ps = ps) : joinUnexpected (p :: ps) = p :: ps := by
            rw [joinUnexpected_cons token, same]
          split at h
          · next trivia =>
              obtain ⟨same, kept⟩ := ih h
              exact ⟨joined same, by rw [List.filter_cons_of_neg (by simp [trivia]), kept]⟩
          · next matters =>
              obtain ⟨rest, hr, rfl⟩ := Option.map_eq_some_iff.mp h
              obtain ⟨same, kept⟩ := ih hr
              exact ⟨joined same, by rw [List.filter_cons_of_pos (by simp [matters]), kept]⟩

theorem meaningful_eq_none {ps : List Piece} (h : meaningful ps = none) :
    ∃ p ∈ joinUnexpected ps, p.kind = .unexpectedFragment := by
  induction ps with
  | nil => cases h
  | cons p ps ih =>
      -- Joining may put `p` into the fragment behind it, but never removes that fragment.
      have later (h : meaningful ps = none) :
          ∃ q ∈ joinUnexpected (p :: ps), q.kind = .unexpectedFragment := by
        obtain ⟨q, member, hq⟩ := ih h
        rw [joinUnexpected]
        split
        · next none => rw [none] at member; cases member
        · next first more some =>
            rw [some] at member
            split
            · exact ⟨_, List.mem_cons_self, rfl⟩
            · exact ⟨q, List.mem_cons_of_mem p member, hq⟩
      rw [meaningful] at h
      split at h
      · next bad =>
          rw [joinUnexpected]
          split
          · exact ⟨p, List.mem_cons_self, bad⟩
          · split
            · exact ⟨_, List.mem_cons_self, rfl⟩
            · exact ⟨p, List.mem_cons_self, bad⟩
      · split at h
        · exact later h
        · exact later (Option.map_eq_none_iff.mp h)

theorem token_of_meaningful {ps qs : List Piece} (h : meaningful ps = some qs) :
    ∀ p ∈ ps, p.kind ≠ .unexpectedFragment := by
  induction ps generalizing qs with
  | nil => exact nofun
  | cons p ps ih =>
      rw [meaningful] at h
      split at h
      · cases h
      · next token =>
          refine List.forall_mem_cons.mpr ⟨token, ?_⟩
          split at h
          · exact ih h
          · obtain ⟨rest, hr, -⟩ := Option.map_eq_some_iff.mp h
            exact ih hr

theorem map_piece_of_words {text : List Char} {ps : List Piece} (h : words text = some ps)
    (origin : Place) : (scan origin text).map Token.piece = ps := by
  obtain ⟨same, kept⟩ := meaningful_eq_some h
  rw [map_piece_scan, same, kept]

theorem token_of_words {text : List Char} {ps : List Piece} (h : words text = some ps)
    {origin : Place} {t : Token} (ht : t ∈ scan origin text) : t.kind ≠ .unexpectedFragment := by
  have member : t.piece ∈ (scan origin text).map Token.piece := List.mem_map_of_mem ht
  rw [map_piece_scan, (meaningful_eq_some h).1] at member
  exact token_of_meaningful h t.piece (List.mem_filter.mp member).1

theorem exists_unexpected_of_words {text : List Char} (h : words text = none) (origin : Place) :
    ∃ t ∈ scan origin text, t.kind = .unexpectedFragment := by
  obtain ⟨p, member, hp⟩ := meaningful_eq_none h
  have kept : p ∈ (scan origin text).map Token.piece := by
    rw [map_piece_scan]
    exact List.mem_filter.mpr ⟨member, by rw [hp]; rfl⟩
  obtain ⟨t, ht, rfl⟩ := List.mem_map.mp kept
  exact ⟨t, ht, hp⟩

theorem locates_of_mem_locate {place : Place} {ps : List Piece} {t : Token} (h : t ∈ locate place ps) :
    place.Locates (ps.flatMap (·.text)) t.text.toList t.location := by
  induction ps generalizing place with
  | nil => cases h
  | cons p ps ih =>
      rw [List.flatMap_cons]
      rcases List.mem_cons.mp h with rfl | later
      · exact ⟨[], ps.flatMap (·.text), by rw [String.toList_ofList, List.nil_append],
          by rw [String.toList_ofList, Place.after_nil]⟩
      · rw [← List.append_nil (p.text ++ _)]
        exact (ih later).widen []

theorem locates_of_mem_scan {origin : Place} {text : List Char} {t : Token} (h : t ∈ scan origin text) :
    origin.Locates text t.text.toList t.location := by
  have located := locates_of_mem_locate (List.mem_filter.mp h).1
  rwa [flatMap_text_joinUnexpected, flatMap_text_pieces] at located

theorem span_of_mem_scan {origin : Place} {text : List Char} {t : Token} (h : t ∈ scan origin text) :
    origin.offset ≤ t.location.span.start ∧
      t.location.span.stop ≤ origin.offset + byteLength text := by
  obtain ⟨low, -, high⟩ := (locates_of_mem_scan h).span
  exact ⟨low, high⟩

end TokenGrammar.Notation
