import TunnelSync.Proofs.Text.Cut
import TunnelSync.Proofs.Url.Percent
import TunnelSync.Url.Worker

/-!
# Writing a path and reading it again

The segments of a path that has been read are `Settled`: none of them is a dot in any spelling, and
none has a character in it that would be coded or would separate. Settled segments are read as they
are written, so a path that is made of them may be edited as a text.

* `exists_settled` : the path of a URL of the web has settled segments
* `readPath_toText` : settled segments are read back from their text
* `setPath_tunnelPath` : the path of the tunnel is the text that was asked for
-/

namespace TunnelSync.Url

/-- Whether a character may stand in a segment of a path that has been read. -/
def inSegment (c : Char) : Bool := c.toNat < 0x80 && !inPath c && c != '/' && c != '\\'

/-- A segment that is read as it is written. -/
structure Settled (s : Text) : Prop where
  not_single : isSingleDot s = false
  not_double : isDoubleDot s = false
  written : ∀ c ∈ s, inSegment c = true

theorem inSegment_iff {c : Char} :
    inSegment c = true ↔ c.toNat < 0x80 ∧ inPath c = false ∧ c ≠ '/' ∧ c ≠ '\\' := by
  simp [inSegment, and_assoc]

theorem ne_of_inSegment {c d : Char} (hc : inSegment c = true) (hd : inSegment d = false) :
    c ≠ d := by
  intro h
  rw [h, hd] at hc
  cases hc

theorem settled_nil : Settled [] := ⟨by decide, by decide, by simp⟩

/-! ### Dots -/

/-- Whether each percent sign of a text in small letters begins the triplet of a full stop. -/
def percentsAreDots : Text → Bool
  | [] => true
  | c :: t => (c != '%' || Text.startsWith "2e" t) && percentsAreDots t

theorem eq_dot_of_digits (b : UInt8) :
    Text.asciiLower (hexDigit (b.toNat / 16)) = '2' →
      Text.asciiLower (hexDigit (b.toNat % 16)) = 'e' → b = 0x2E :=
  forall_byte (p := fun b => Text.asciiLower (hexDigit (b.toNat / 16)) = '2' →
    Text.asciiLower (hexDigit (b.toNat % 16)) = 'e' → b = 0x2E) (by decide +kernel) b

theorem percentByte_dot {b : UInt8} {t : Text}
    (h : percentsAreDots ((percentByte b ++ t).map Text.asciiLower) = true) : b = 0x2E := by
  have hsign : (Text.asciiLower '%' != '%') = false := by decide
  simp only [percentByte, List.cons_append, List.nil_append, List.map_cons, percentsAreDots, hsign,
    Bool.false_or, Bool.and_eq_true] at h
  obtain ⟨rest, hrest⟩ := Text.startsWith_iff.mp h.1
  have hdigits : ['2', 'e'] ++ rest = _ := hrest
  simp only [List.cons_append, List.cons.injEq] at hdigits
  exact eq_dot_of_digits b hdigits.1.symm hdigits.2.1.symm

/-- A character that is coded does not become a part of a dot. -/
theorem percentEncode_of_percentsAreDots {s : Text}
    (h : percentsAreDots ((percentEncode inPath s).map Text.asciiLower) = true) :
    percentEncode inPath s = s := by
  induction s with
  | nil => rfl
  | cons c s ih =>
      by_cases hc : c.toNat ≥ 0x80 ∨ inPath c = true
      · -- its first triplet would be that of a full stop, and a full stop is not coded
        exfalso
        rw [percentEncode_cons_of_coded hc] at h
        obtain ⟨b, bs, hbytes⟩ := List.exists_cons_of_ne_nil (Text.utf8EncodeChar_ne_nil c)
        rw [hbytes, List.flatMap_cons, List.append_assoc] at h
        have hb := percentByte_dot h
        have hdot : c.toNat = 0x2E :=
          Text.toNat_of_mem_utf8EncodeChar (b := 0x2E) (by rw [hbytes, hb]; simp) (by decide)
        have hchar : c = '.' := Char.toNat_inj.mp hdot
        subst hchar
        exact absurd hc (by decide)
      · have hplain : c.toNat < 0x80 ∧ inPath c = false := by simpa using hc
        rw [percentEncode_cons_of_plain hplain] at h ⊢
        rw [List.map_cons, percentsAreDots, Bool.and_eq_true] at h
        rw [ih h.2]

theorem isSingleDot_of_percentEncode {s : Text} (h : isSingleDot (percentEncode inPath s) = true) :
    isSingleDot s = true := by
  have hdots : ∀ d ∈ [".", "%2e"].map String.toList, percentsAreDots d = true := by decide
  have hself := percentEncode_of_percentsAreDots (hdots _ (by simpa [isSingleDot] using h))
  rwa [hself] at h

theorem isDoubleDot_of_percentEncode {s : Text} (h : isDoubleDot (percentEncode inPath s) = true) :
    isDoubleDot s = true := by
  have hdots : ∀ d ∈ ["..", ".%2e", "%2e.", "%2e%2e"].map String.toList,
      percentsAreDots d = true := by decide
  have hself := percentEncode_of_percentsAreDots (hdots _ (by simpa [isDoubleDot] using h))
  rwa [hself] at h

/-! ### Reading a path -/

theorem segmentText_web (s : Text) : segmentText .web s = percentEncode inPath s := by
  unfold segmentText
  split <;> simp

theorem settled_segmentText {s : Text} (hsep : ∀ c ∈ s, c ≠ '/' ∧ c ≠ '\\')
    (hsingle : isSingleDot s = false) (hdouble : isDoubleDot s = false) :
    Settled (segmentText .web s) := by
  rw [segmentText_web]
  refine
    { not_single := Bool.eq_false_iff.mpr fun h => ?_
      not_double := Bool.eq_false_iff.mpr fun h => ?_
      written := fun c hc => ?_ }
  · rw [isSingleDot_of_percentEncode h] at hsingle
    cases hsingle
  · rw [isDoubleDot_of_percentEncode h] at hdouble
    cases hdouble
  · rcases mem_percentEncode hc with ⟨hmem, hascii, hplain⟩ | ⟨b, hb⟩
    · exact inSegment_iff.mpr ⟨hascii, hplain, hsep c hmem⟩
    · exact forall_mem_percentByte (by decide) (by decide) hb

theorem mem_goUp {done : List Text} {s : Text} (h : s ∈ goUp done) : s ∈ done := by
  cases done with
  | nil => exact h
  | cons t rest =>
      rw [goUp] at h
      split at h
      · exact h
      · exact List.mem_cons_of_mem _ h

/-- What holds of the empty segment, of those before and of each one that is written, holds of the
segments that are worked out. -/
theorem forall_mem_resolveFrom {p : Text → Prop} {kind : Kind} {done raw : List Text}
    (hnil : p []) (hdone : ∀ s ∈ done, p s)
    (hraw : ∀ s ∈ raw, isSingleDot s = false → isDoubleDot s = false → p (segmentText kind s)) :
    ∀ s ∈ resolveFrom kind done raw, p s := by
  induction raw generalizing done with
  | nil => simpa [resolveFrom] using hdone
  | cons t rest ih =>
      have hrest : ∀ s ∈ rest, isSingleDot s = false → isDoubleDot s = false →
          p (segmentText kind s) := fun s hs => hraw s (by simp [hs])
      have hgo : ∀ s ∈ goUp done, p s := fun s hs => hdone s (mem_goUp hs)
      -- a dot at the end of the path leaves an empty segment
      have hend {l : List Text} (hl : ∀ s ∈ l, p s) :
          ∀ s ∈ (if rest.isEmpty then [] :: l else l), p s := by
        split
        · exact List.forall_mem_cons.mpr ⟨hnil, hl⟩
        · exact hl
      rw [resolveFrom]
      split
      next => exact ih (hend hgo) hrest
      next hdouble =>
        split
        next => exact ih (hend hdone) hrest
        next hsingle =>
          have ht := hraw t (by simp) (by simpa using hsingle) (by simpa using hdouble)
          exact ih (List.forall_mem_cons.mpr ⟨ht, hdone⟩) hrest

theorem settled_resolveFrom {done raw : List Text} (hdone : ∀ s ∈ done, Settled s)
    (hraw : ∀ s ∈ raw, ∀ c ∈ s, c ≠ '/' ∧ c ≠ '\\') :
    ∀ s ∈ resolveFrom .web done raw, Settled s :=
  forall_mem_resolveFrom settled_nil hdone fun s hs => settled_segmentText (hraw s hs)

/-- The path of a URL of the web has settled segments. -/
theorem exists_settled (t : Text) :
    ∃ segments, readPath .web t = .rooted segments ∧ ∀ s ∈ segments, Settled s := by
  refine ⟨_, rfl, settled_resolveFrom (by simp) fun s hs c hc => ?_⟩
  obtain ⟨hmem, hslash⟩ := Text.mem_of_mem_fields hs hc
  refine ⟨hslash, fun hback => ?_⟩
  -- a backslash has become a slash before the path was cut
  subst hback
  simp only [reduceCtorEq, if_false, List.mem_map] at hmem
  obtain ⟨d, -, hd⟩ := hmem
  split at hd
  · cases hd
  next hd' => exact hd' (beq_iff_eq.mpr hd)

/-! ### Reading it again -/

section
variable {segments : List Text}

theorem resolveFrom_of_settled {done : List Text} (h : ∀ s ∈ segments, Settled s) :
    resolveFrom .web done segments = done.reverse ++ segments := by
  induction segments generalizing done with
  | nil => simp [resolveFrom]
  | cons s rest ih =>
      have hs := h s (by simp)
      have hself : segmentText .web s = s := by
        rw [segmentText_web]
        refine percentEncode_eq_self fun c hc => ?_
        obtain ⟨hascii, hplain, -⟩ := inSegment_iff.mp (hs.written c hc)
        exact ⟨hascii, hplain⟩
      rw [resolveFrom]
      simp only [hs.not_double, hs.not_single, Bool.false_eq_true, if_false, hself]
      rw [ih fun t ht => h t (by simp [ht])]
      simp

theorem toText_rooted_cons (s : Text) (rest : List Text) :
    (Path.rooted (s :: rest)).toText = '/' :: ['/'].intercalate (s :: rest) := by
  induction rest generalizing s with
  | nil => simp [Path.toText]
  | cons t rest ih =>
      rw [List.intercalate_cons_cons, List.append_assoc, List.singleton_append, ← ih t]
      rfl

theorem inSegment_or_slash (h : ∀ s ∈ segments, Settled s) {c : Char}
    (hc : c ∈ (Path.rooted segments).toText) : inSegment c = true ∨ c = '/' := by
  rw [Path.toText, List.mem_flatMap] at hc
  obtain ⟨s, hs, hc⟩ := hc
  rcases List.mem_cons.mp hc with rfl | hc
  · exact .inr rfl
  · exact .inl ((h s hs).written c hc)

theorem endsPath_of_mem_toText (h : ∀ s ∈ segments, Settled s) {c : Char}
    (hc : c ∈ (Path.rooted segments).toText) : endsPath c = false := by
  rcases inSegment_or_slash h hc with hc | rfl
  · simp [endsPath, ne_of_inSegment hc (d := '?') (by decide),
      ne_of_inSegment hc (d := '#') (by decide)]
  · decide

/-- Settled segments are read back from their text. -/
theorem readPath_toText (h : ∀ s ∈ segments, Settled s) (hne : segments ≠ []) :
    readPath .web (Path.rooted segments).toText = .rooted segments := by
  obtain ⟨s, rest, rfl⟩ := List.exists_cons_of_ne_nil hne
  have hslash : ∀ t ∈ s :: rest, '/' ∉ t := fun t ht hmem =>
    absurd ((h t ht).written '/' hmem) (by decide)
  have hback : (['/'].intercalate (s :: rest)).map (fun c => if c == '\\' then '/' else c) =
      ['/'].intercalate (s :: rest) := by
    refine (List.map_congr_left fun c hc => ?_).trans (List.map_id _)
    have hmem : c ∈ (Path.rooted (s :: rest)).toText := by
      rw [toText_rooted_cons]
      exact List.mem_cons_of_mem _ hc
    have hne : c ≠ '\\' := by
      rcases inSegment_or_slash h hmem with hc | rfl
      · exact (inSegment_iff.mp hc).2.2.2
      · decide
    simp [hne]
  have hraw : rawSegments .web (['/'].intercalate (s :: rest)) = s :: rest := by
    rw [rawSegments, if_neg (by decide), hback, Text.fields_eq_splitOn,
      List.splitOn_intercalate _ hslash (by simp)]
  rw [toText_rooted_cons]
  show Path.rooted (resolveFrom .web [] (rawSegments .web (['/'].intercalate (s :: rest)))) = _
  rw [hraw, resolveFrom_of_settled h]
  rfl

theorem toText_rooted_concat (segments : List Text) (s : Text) :
    (Path.rooted (segments ++ [s])).toText = (Path.rooted segments).toText ++ '/' :: s := by
  simp [Path.toText]

theorem dropTrailing_toText (h : ∀ s ∈ segments, Settled s) :
    Text.dropTrailing '/' (Path.rooted segments).toText =
      (Path.rooted (segments.rdropWhile (·.isEmpty))).toText := by
  induction segments using List.reverseRecOn with
  | nil => rfl
  | append_singleton segments s ih =>
      rw [toText_rooted_concat]
      rcases s.eq_nil_or_concat' with rfl | ⟨s, c, rfl⟩
      · rw [Text.dropTrailing_concat, List.rdropWhile_concat_pos _ _ _ rfl,
          ih fun t ht => h t (by simp [ht])]
      · have hc : c ≠ '/' := (inSegment_iff.mp ((h (s ++ [c]) (by simp)).written c (by simp))).2.2.1
        rw [List.rdropWhile_concat_neg _ _ _ (by simp), toText_rooted_concat, ← List.cons_append,
          ← List.append_assoc]
        exact List.rdropWhile_concat_neg _ _ _ (by simpa using hc)

end

/-! ### The path of the tunnel -/

/-- The path of the tunnel is the text that was asked for, and its segments are settled. -/
theorem setPath_tunnelPath {u : Url} {segments : List Text} (hkind : kindOf u.scheme = .web)
    (hpath : u.path = .rooted segments) (h : ∀ s ∈ segments, Settled s) :
    ∃ segments', (u.setPath (tunnelPath u.path.toText)).path = .rooted segments' ∧
      (∀ s ∈ segments', Settled s) ∧ (Path.rooted segments').toText = tunnelPath u.path.toText := by
  have hsettled : ∀ s ∈ segments.rdropWhile (·.isEmpty) ++ ["ssh".toList], Settled s := by
    intro s hs
    rcases List.mem_append.mp hs with hs | hs
    · exact h s ((List.rdropWhile_prefix _ _).mem hs)
    · rw [List.mem_singleton.mp hs]
      exact ⟨by decide, by decide, List.all_eq_true.mp (by decide)⟩
  have htext : (Path.rooted (segments.rdropWhile (·.isEmpty) ++ ["ssh".toList])).toText =
      tunnelPath u.path.toText := by
    rw [toText_rooted_concat, tunnelPath, hpath, dropTrailing_toText h]
    rfl
  have hunbroken : unbroken (tunnelPath u.path.toText) = tunnelPath u.path.toText := by
    refine List.filter_eq_self.mpr fun c hc => ?_
    rw [← htext] at hc
    rcases inSegment_or_slash hsettled hc with hc | rfl
    · simp [ne_of_inSegment hc (d := '\t') (by decide), ne_of_inSegment hc (d := '\n') (by decide),
        ne_of_inSegment hc (d := '\r') (by decide)]
    · decide
  refine ⟨_, ?_, hsettled, htext⟩
  rw [setPath, hpath]
  dsimp only
  rw [← hpath, hkind, hunbroken, ← htext]
  exact readPath_toText hsettled (by simp)

end TunnelSync.Url
