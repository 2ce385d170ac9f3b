import Mathlib.Data.List.Basic

/-!
# Decoders of a stream that arrives in chunks

A stream of symbols is cut into frames from the left. A decoder says what stands at the front of a
buffer: not enough symbols yet, a frame and what follows it, or a header that no frame has
(`Front`). The receiver keeps a buffer: each chunk is appended to it, the frames at its front are
taken, and at a bad header the whole buffer is thrown away (`drain`, `feed`).

- `ofWords` is the decoder of a finite code.
- `Frames s bs t`: the stream `s` is the frames with the bodies `bs`, then `t`.
- `feed_more`: if no bad header comes up, the chunks do not matter: every cut of the stream gives
  the bodies that the whole stream gives, with the same rest in the buffer.
- `cut_invariant_iff`: with a bad header the rest of the stream is decoded from where the buffer
  ended when the header was seen, which the cut decides. Two cuts can give different bodies exactly
  if a frame stands somewhere behind the bad header. `valid` picks the bodies that count.
-/

namespace Framing

/-- What stands at the front of a buffer. -/
inductive Front (β : Type) where
  /-- Not enough symbols to tell. -/
  | more
  /-- A header that no frame has. -/
  | bad
  /-- A frame with its body, and the symbols after it. -/
  | frame (body rest : List β)
  deriving DecidableEq

/-- A decoder. A frame is known from its own symbols alone, a bad header from its first `hdr`
symbols. -/
structure Decoder (β : Type) where
  front : List β → Front β
  hdr : Nat
  nil : front [] = .more
  frame : ∀ {s b rest}, front s = .frame b rest →
    ∃ p, p ≠ [] ∧ s = p ++ rest ∧ ∀ rest', front (p ++ rest') = .frame b rest'
  bad : ∀ {s}, front s = .bad →
    hdr ≤ s.length ∧ ∀ k, hdr ≤ k → ∀ more, front (s.take k ++ more) = .bad

namespace Decoder

variable {β : Type} (D : Decoder β)

theorem rest_length {s b rest : List β} (h : D.front s = .frame b rest) :
    rest.length < s.length := by
  obtain ⟨p, hp, rfl, -⟩ := D.frame h
  have := List.length_pos_of_ne_nil hp
  rw [List.length_append]; omega

theorem frame_append {s b rest : List β} (h : D.front s = .frame b rest) (more : List β) :
    D.front (s ++ more) = .frame b (rest ++ more) := by
  obtain ⟨p, -, rfl, hp⟩ := D.frame h
  rw [List.append_assoc]; exact hp _

theorem bad_append {s : List β} (h : D.front s = .bad) (more : List β) :
    D.front (s ++ more) = .bad := by
  obtain ⟨hl, hb⟩ := D.bad h
  simpa using hb _ hl more

/-- The bodies of the frames at the front of the buffer, and what is left in it. -/
def drain (buf : List β) : List (List β) × List β :=
  match _h : D.front buf with
  | .more => ([], buf)
  | .bad => ([], [])
  | .frame b rest => (b :: (drain rest).1, (drain rest).2)
termination_by buf.length
decreasing_by exact D.rest_length _h

theorem drain_more {buf : List β} (h : D.front buf = .more) : D.drain buf = ([], buf) := by
  rw [drain]; split <;> simp_all

theorem drain_bad {buf : List β} (h : D.front buf = .bad) : D.drain buf = ([], []) := by
  rw [drain]; split <;> simp_all

theorem drain_frame {buf b rest : List β} (h : D.front buf = .frame b rest) :
    D.drain buf = (b :: (D.drain rest).1, (D.drain rest).2) := by
  rw [drain]; split <;> simp_all

/-- The bodies from the chunks, with `buf` in the buffer, and what is left in it. -/
def feed (buf : List β) : List (List β) → List (List β) × List β
  | [] => ([], buf)
  | c :: cs =>
    ((D.drain (buf ++ c)).1 ++ (feed (D.drain (buf ++ c)).2 cs).1, (feed (D.drain (buf ++ c)).2 cs).2)

/-- The decoder whose frames are the given words, none of which starts another one. -/
def ofWords [DecidableEq β] (words : List (List β)) (hne : ∀ c ∈ words, c ≠ [])
    (hfree : ∀ c ∈ words, ∀ d ∈ words, c <+: d → c = d) : Decoder β where
  front s := match words.find? fun c => c.isPrefixOf s with
    | some c => .frame c (s.drop c.length)
    | none => .more
  hdr := 0
  nil := by
    split
    · rename_i c hc
      have hp := List.find?_some hc
      simp only [List.isPrefixOf_iff_prefix, List.prefix_nil] at hp
      exact absurd hp (hne c (List.mem_of_find?_eq_some hc))
    · rfl
  frame := by
    intro s b rest h
    split at h
    · rename_i c hc
      cases h
      have hm := List.mem_of_find?_eq_some hc
      have hp := List.find?_some hc
      simp only [List.isPrefixOf_iff_prefix] at hp
      obtain ⟨t, rfl⟩ := hp
      refine ⟨b, hne b hm, by rw [List.drop_left], fun rest' => ?_⟩
      have hb : b <+: b ++ rest' := List.prefix_append b rest'
      cases hd : words.find? fun c => c.isPrefixOf (b ++ rest') with
      | none =>
        have := List.find?_eq_none.mp hd b hm
        simp only [List.isPrefixOf_iff_prefix] at this
        exact absurd hb this
      | some d =>
        -- the word that is found is comparable with `b`
        have hd' := List.find?_some hd
        simp only [List.isPrefixOf_iff_prefix] at hd'
        have hdm := List.mem_of_find?_eq_some hd
        have : d = b := by
          rcases List.prefix_or_prefix_of_prefix hd' hb with h | h
          · exact hfree d hdm b hm h
          · exact (hfree b hm d hdm h).symm
        subst this
        simp only [List.drop_left]
    · cases h
  bad := by
    intro s h
    split at h <;> cases h

/-! ## Frames at the front of a stream -/

/-- `s` is the frames with the bodies `bs`, then `t`. -/
inductive Frames : List β → List (List β) → List β → Prop
  | nil (s : List β) : Frames s [] s
  | cons {s b rest t : List β} {bs : List (List β)} :
      D.front s = .frame b rest → Frames rest bs t → Frames s (b :: bs) t

variable {D}

theorem Frames.append {s t : List β} {bs : List (List β)} (h : D.Frames s bs t) (more : List β) :
    D.Frames (s ++ more) bs (t ++ more) := by
  induction h with
  | nil s => exact .nil _
  | cons hf _ ih => exact .cons (D.frame_append hf more) ih

/-- The symbols of the frames, whatever follows them. -/
theorem Frames.split {s t : List β} {bs : List (List β)} (h : D.Frames s bs t) :
    ∃ p, s = p ++ t ∧ ∀ u, D.Frames (p ++ u) bs u := by
  induction h with
  | nil s => exact ⟨[], rfl, fun u => .nil u⟩
  | cons hf _ ih =>
    obtain ⟨q, rfl, hq⟩ := ih
    obtain ⟨p, -, rfl, hp⟩ := D.frame hf
    refine ⟨p ++ q, by rw [List.append_assoc], fun u => ?_⟩
    rw [List.append_assoc]
    exact .cons (hp _) (hq u)

theorem Frames.trans {s t u : List β} {bs cs : List (List β)} (h : D.Frames s bs t)
    (h' : D.Frames t cs u) : D.Frames s (bs ++ cs) u := by
  induction h with
  | nil s => exact h'
  | cons hf _ ih => exact .cons hf (ih h')

/-- The frames up to where none stands contain all frames from the front. -/
theorem Frames.initial {s t u : List β} {bs cs : List (List β)} (h : D.Frames s bs t)
    (ht : ∀ b r, D.front t ≠ .frame b r) (h' : D.Frames s cs u) :
    ∃ ds, bs = cs ++ ds ∧ D.Frames u ds t := by
  induction h' generalizing bs with
  | nil s => exact ⟨bs, rfl, h⟩
  | cons hf _ ih =>
    cases h with
    | nil => exact absurd hf (ht _ _)
    | cons hf' h =>
      rw [hf] at hf'
      cases hf'
      obtain ⟨ds, rfl, hu⟩ := ih h
      exact ⟨ds, rfl, hu⟩

/-- Every buffer is frames up to a place where none stands. -/
theorem exists_frames (s : List β) :
    ∃ bs t, D.Frames s bs t ∧ ∀ b r, D.front t ≠ .frame b r := by
  induction hn : s.length using Nat.strongRecOn generalizing s with
  | ind n ih =>
    cases hf : D.front s with
    | more => exact ⟨[], s, .nil s, by simp [hf]⟩
    | bad => exact ⟨[], s, .nil s, by simp [hf]⟩
    | frame b rest =>
      obtain ⟨bs, t, h, ht⟩ := ih rest.length (by rw [← hn]; exact D.rest_length hf) rest rfl
      exact ⟨b :: bs, t, .cons hf h, ht⟩

/-- The frame at the front of a longer buffer comes first. -/
theorem drain_append {s b rest : List β} (h : D.front s = .frame b rest) (more : List β) :
    D.drain (s ++ more) = (b :: (D.drain (rest ++ more)).1, (D.drain (rest ++ more)).2) :=
  D.drain_frame (D.frame_append h more)

/-- Nothing comes out of a buffer without a frame at its front. -/
theorem drain_nil {s : List β} (h : ∀ b r, D.front s ≠ .frame b r) : (D.drain s).1 = [] := by
  cases hf : D.front s with
  | more => rw [D.drain_more hf]
  | bad => rw [D.drain_bad hf]
  | frame b r => exact absurd hf (h b r)

theorem drain_of_more {s t : List β} {bs : List (List β)} (h : D.Frames s bs t)
    (ht : D.front t = .more) : D.drain s = (bs, t) := by
  induction h with
  | nil s => exact D.drain_more ht
  | cons hf _ ih => rw [D.drain_frame hf, ih ht]

theorem drain_of_bad {s t : List β} {bs : List (List β)} (h : D.Frames s bs t)
    (ht : D.front t = .bad) : D.drain s = (bs, []) := by
  induction h with
  | nil s => exact D.drain_bad ht
  | cons hf _ ih => rw [D.drain_frame hf, ih ht]

/-! ## Streams without a bad header -/

/-- The first symbols of a stream: its frames there, and part of one or a bad header. -/
theorem Frames.front_part {buf more t : List β} {bs : List (List β)}
    (h : D.Frames (buf ++ more) bs t) (ht : ∀ b r, D.front t ≠ .frame b r) :
    ∃ bs₁ bs₂ u, bs = bs₁ ++ bs₂ ∧ D.Frames buf bs₁ u ∧ D.Frames (u ++ more) bs₂ t ∧
      (D.front u = .more ∨ D.front u = .bad ∧ bs₂ = [] ∧ t = u ++ more) := by
  obtain ⟨bs₁, u, hu, hun⟩ := exists_frames (D := D) buf
  obtain ⟨bs₂, rfl, h₂⟩ := h.initial ht (hu.append more)
  refine ⟨bs₁, bs₂, u, rfl, hu, h₂, ?_⟩
  cases huf : D.front u with
  | more => exact .inl rfl
  | frame b r => exact absurd huf (hun b r)
  | bad =>
    -- a bad header now is one of the whole stream
    have hbad := D.bad_append huf more
    cases h₂ with
    | nil => exact .inr ⟨rfl, rfl, rfl⟩
    | cons hf _ => rw [hbad] at hf; cases hf

/-- The first chunk of a stream without a bad header: its frames, and part of one. -/
theorem Frames.chunk {buf c more t : List β} {bs : List (List β)}
    (h : D.Frames (buf ++ c ++ more) bs t) (ht : D.front t = .more) :
    ∃ bs₁ bs₂ u, bs = bs₁ ++ bs₂ ∧ D.Frames (buf ++ c) bs₁ u ∧ D.front u = .more ∧
      D.Frames (u ++ more) bs₂ t := by
  obtain ⟨bs₁, bs₂, u, hbs, hu, h₂, huf | ⟨huf, -, rfl⟩⟩ := h.front_part (by simp [ht])
  · exact ⟨bs₁, bs₂, u, hbs, hu, huf, h₂⟩
  · rw [D.bad_append huf more] at ht
    cases ht

/-- **The chunks do not matter** as long as no bad header comes up. -/
theorem feed_more {buf t : List β} {cs bs : List (List β)} (hb : D.front buf = .more)
    (h : D.Frames (buf ++ cs.flatten) bs t) (ht : D.front t = .more) : D.feed buf cs = (bs, t) := by
  induction cs generalizing buf bs with
  | nil =>
    simp only [List.flatten_nil, List.append_nil] at h
    cases h with
    | nil => rfl
    | cons hf _ => rw [hb] at hf; cases hf
  | cons c cs ih =>
    rw [List.flatten_cons, ← List.append_assoc] at h
    obtain ⟨bs₁, bs₂, u, rfl, hu, huf, h₂⟩ := h.chunk ht
    simp [feed, drain_of_more hu huf, ih huf h₂]

/-! ## Streams with a bad header -/

variable {valid : List β → Bool} {t : List β}

/-- No frame whose body counts stands at a place of `t` from its `n`-th symbol on. -/
def NoneFrom (D : Decoder β) (valid : List β → Bool) (t : List β) (n : Nat) : Prop :=
  ∀ k, n ≤ k → ∀ b r, D.front (t.drop k) = .frame b r → valid b = false

theorem drain_lost (hno : D.NoneFrom valid t D.hdr) {x more : List β} {k : Nat} (hk : D.hdr ≤ k)
    (hx : x ++ more = t.drop k) : (D.drain x).1.filter valid = [] ∧
      ∃ k', D.hdr ≤ k' ∧ (D.drain x).2 ++ more = t.drop k' := by
  induction hn : x.length using Nat.strongRecOn generalizing x k with
  | ind n ih =>
    cases hf : D.front x with
    | more => exact ⟨by simp [D.drain_more hf], k, hk, by rw [D.drain_more hf]; exact hx⟩
    | bad =>
      refine ⟨by simp [D.drain_bad hf], k + x.length, by omega, ?_⟩
      rw [D.drain_bad hf, ← List.drop_drop, ← hx]
      simp
    | frame b rest =>
      have hb : valid b = false := hno k hk b _ (by rw [← hx]; exact D.frame_append hf more)
      obtain ⟨p, -, hp, -⟩ := D.frame hf
      have hr : rest ++ more = t.drop (k + p.length) := by
        rw [← List.drop_drop, ← hx, hp, List.append_assoc, List.drop_left]
      obtain ⟨h₁, h₂⟩ := ih rest.length (by rw [← hn]; exact D.rest_length hf) (by omega) hr rfl
      rw [D.drain_frame hf]
      exact ⟨by simpa [hb] using h₁, h₂⟩

theorem feed_lost (hno : D.NoneFrom valid t D.hdr) {buf : List β} {cs : List (List β)} {k : Nat}
    (hk : D.hdr ≤ k) (hx : buf ++ cs.flatten = t.drop k) :
    (D.feed buf cs).1.filter valid = [] := by
  induction cs generalizing buf k with
  | nil => rfl
  | cons c cs ih =>
    rw [List.flatten_cons, ← List.append_assoc] at hx
    obtain ⟨h₁, k', hk', h₂⟩ := drain_lost hno hk hx
    simp only [feed, List.filter_append, h₁, ih hk' h₂, List.append_nil]

/-- Only the frames before the bad header count. -/
theorem feed_bad (hno : D.NoneFrom valid t D.hdr) {buf : List β} {cs bs : List (List β)}
    (hb : D.front buf = .more) (h : D.Frames (buf ++ cs.flatten) bs t) (ht : D.front t = .bad) :
    (D.feed buf cs).1.filter valid = bs.filter valid := by
  induction cs generalizing buf bs with
  | nil =>
    simp only [List.flatten_nil, List.append_nil] at h
    cases h with
    | nil => rfl
    | cons hf _ => rw [hb] at hf; cases hf
  | cons c cs ih =>
    rw [List.flatten_cons, ← List.append_assoc] at h
    obtain ⟨bs₁, bs₂, u, rfl, hu, h₂, huf | ⟨huf, rfl, rfl⟩⟩ := h.front_part (by simp [ht])
    · have := ih huf h₂
      simp [feed, drain_of_more hu huf, this]
    · -- the buffer is thrown away: the next chunk starts at symbol `u.length` of `t`
      have hd : [] ++ cs.flatten = (u ++ cs.flatten).drop u.length := by
        rw [List.nil_append, List.drop_left]
      simp [feed, drain_of_bad hu huf, feed_lost hno (D.bad huf).1 hd]

/-- **When the chunks do not matter.** All cuts of `s` give the same bodies (of those that count)
exactly if behind a bad header of `s` stands no frame whose body counts. -/
theorem cut_invariant_iff (D : Decoder β) (valid : List β → Bool) (s : List β) :
    (∀ cs cs' : List (List β), cs.flatten = s → cs'.flatten = s →
      (D.feed [] cs).1.filter valid = (D.feed [] cs').1.filter valid) ↔
    ∀ bs t, D.Frames s bs t → D.front t = .bad → D.NoneFrom valid t D.hdr := by
  constructor
  · intro h bs t hs ht k hk b r hf
    obtain ⟨p, rfl, hp⟩ := hs.split
    -- one chunk against a cut at symbol `k` of `t`
    have h₁ : D.feed [] [p ++ t] = (bs, []) := by simp [feed, drain_of_bad hs ht]
    have h₂ : (D.feed [] [p ++ t.take k, t.drop k]).1 = bs ++ b :: (D.drain r).1 := by
      have hbad : D.front (t.take k) = .bad := by simpa using (D.bad ht).2 k hk []
      simp [feed, drain_of_bad (hp _) hbad, D.drain_frame hf]
    have := h [p ++ t] [p ++ t.take k, t.drop k] (by simp) (by simp)
    rw [h₁, h₂, List.filter_append, List.self_eq_append_right, List.filter_cons] at this
    cases hv : valid b with
    | false => rfl
    | true => rw [hv] at this; simp at this
  · intro h cs cs' hcs hcs'
    obtain ⟨bs, t, hs, hn⟩ := exists_frames (D := D) s
    cases ht : D.front t with
    | frame b r => exact absurd ht (hn b r)
    | more =>
      rw [feed_more D.nil (by rw [List.nil_append, hcs]; exact hs) ht,
        feed_more D.nil (by rw [List.nil_append, hcs']; exact hs) ht]
    | bad =>
      rw [feed_bad (h bs t hs ht) D.nil (by rw [List.nil_append, hcs]; exact hs) ht,
        feed_bad (h bs t hs ht) D.nil (by rw [List.nil_append, hcs']; exact hs) ht]

end Decoder

end Framing
