import Mathlib.Data.List.Basic
import Mathlib.Order.Lattice

/-! # Streams of self-delimiting frames
General facts about a stream that is the concatenation of frames. A code is *self-delimiting* when
two streams that start with a frame and agree start with the same frame. Then whole frames found in
a stretch of such a stream are the frames that were written, in order:

* `SelfDelimiting.of_flatten` — frames whose concatenation is the start of another concatenation of
  frames are the first of those.
* `SelfDelimiting.of_flatten_cut` — the same when the stream ends in the middle of a frame: the torn
  frame is never among those found.
* `valuesAt k log` — what a log of keyed entries says about the key `k`.
* `Ordered` — sessions numbered in the order they were opened.
* `sublist_of_sorted` — two logs sorted by session that agree session by session, up to lost
  entries, agree as wholes up to lost entries. -/

namespace Framing

variable {μ β α κ : Type*}

/-- The concatenation of the frames of a list of messages. -/
def stream (enc : μ → List β) (ms : List μ) : List β := (ms.map enc).flatten

@[simp] theorem stream_nil (enc : μ → List β) : stream enc [] = [] := rfl

@[simp] theorem stream_cons (enc : μ → List β) (m : μ) (ms : List μ) :
    stream enc (m :: ms) = enc m ++ stream enc ms := rfl

@[simp] theorem stream_append (enc : μ → List β) (ms ms' : List μ) :
    stream enc (ms ++ ms') = stream enc ms ++ stream enc ms' := by
  simp [stream]

/-- A prefix of the messages gives a prefix of the stream. -/
theorem stream_mono (enc : μ → List β) {ms ms' : List μ} (h : ms <+: ms') :
    stream enc ms <+: stream enc ms' := by
  obtain ⟨t, rfl⟩ := h
  rw [stream_append]
  exact List.prefix_append _ _

/-- A **self-delimiting** code: no frame is empty, and a frame at the start of a stream is
determined by the stream. -/
structure SelfDelimiting (enc : μ → List β) : Prop where
  /-- Frames are not empty. -/
  ne_nil : ∀ m, enc m ≠ []
  /-- Two streams that agree start with the same frame. -/
  head_eq : ∀ {a b : μ} {r r' : List β}, enc a ++ r = enc b ++ r' → a = b

/-- **Frames found in a stream are the frames written to it.** If the concatenation of `es` is the
start of the concatenation of `fs`, then `es` is the start of `fs`. -/
theorem SelfDelimiting.of_flatten {enc : μ → List β} (hc : SelfDelimiting enc) {es fs : List μ}
    (h : stream enc es <+: stream enc fs) : es <+: fs := by
  induction es generalizing fs with
  | nil => exact List.nil_prefix
  | cons e es ih =>
      obtain ⟨t, ht⟩ := h
      cases fs with
      | nil =>
          rw [stream_cons, List.append_assoc, stream_nil, List.append_eq_nil_iff] at ht
          exact absurd ht.1 (hc.ne_nil e)
      | cons f fs =>
          rw [stream_cons, stream_cons, List.append_assoc] at ht
          obtain rfl := hc.head_eq ht
          have hrest : stream enc es ++ t = stream enc fs := List.append_cancel_left ht
          exact List.cons_prefix_cons.mpr ⟨rfl, ih ⟨t, hrest⟩⟩

/-- **A torn frame is never found.** If the stream holds the frames of `fs` and then a strict part
`p` of one more frame, whole frames at its start are the first of `fs`. -/
theorem SelfDelimiting.of_flatten_cut {enc : μ → List β} (hc : SelfDelimiting enc)
    {es fs : List μ} {m : μ} {p : List β} (hp : p <+: enc m) (hne : p ≠ enc m)
    (h : stream enc es <+: stream enc fs ++ p) : es <+: fs := by
  have hlt : p.length < (enc m).length :=
    Nat.lt_of_le_of_ne hp.length_le fun heq => hne (hp.eq_of_length heq)
  have hle : stream enc fs ++ p <+: stream enc (fs ++ [m]) := by
    rw [stream_append]
    simpa [stream] using (List.prefix_append_right_inj (stream enc fs)).mpr hp
  rcases List.prefix_concat_iff.mp (hc.of_flatten (h.trans hle)) with heq | hpre
  · -- all of `fs ++ [m]` found: the stream would be as long as a whole frame more
    rw [heq] at h
    have := h.length_le
    simp only [stream_append, stream_cons, stream_nil, List.length_append, List.append_nil] at this
    omega
  · exact hpre

/-- **Two logs that agree.** If the images of `xs` are the first of those of `ys`, each item of `xs` has
a counterpart in the same place. -/
theorem getElem?_of_agree {f : α → μ} {g : κ → μ} {xs : List α} {ys : List κ}
    (h : xs.map f <+: ys.map g) {i : Nat} {a : α} (ha : xs[i]? = some a) :
    ∃ b, ys[i]? = some b ∧ f a = g b := by
  obtain ⟨rest, hrest⟩ := h
  have hlt : i < (xs.map f).length := by
    rw [List.length_map]
    exact (List.getElem?_eq_some_iff.mp ha).1
  have hget := congrArg (fun l => l[i]?) hrest
  rw [List.getElem?_append_left hlt, List.getElem?_map, List.getElem?_map, ha] at hget
  obtain ⟨b, hb, hfg⟩ := Option.map_eq_some_iff.mp hget.symm
  exact ⟨b, hb, hfg.symm⟩

/-- **Choosing from two logs that agree.** The images of `xs` are the first of those of `ys ++ b :: zs`,
and `b` is chosen. If as many are chosen before `a` in `xs` as in `ys`, then `a` stands where `b`
stands. -/
theorem getElem?_of_filter_agree {f : α → μ} {g : κ → μ} {p : μ → Bool} {xs : List α}
    {ys zs : List κ} {a : α} {b : κ} (h : xs.map f <+: (ys ++ b :: zs).map g) (hb : p (g b) = true)
    (ha : (xs.filter fun x => p (f x))[(ys.filter fun y => p (g y)).length]? = some a) :
    xs[ys.length]? = some a ∧ f a = g b := by
  induction ys generalizing xs with
  | nil =>
      cases xs with
      | nil => cases ha
      | cons x xs =>
          obtain ⟨hx, -⟩ := List.cons_prefix_cons.mp h
          have hp : p (f x) = true := hx ▸ hb
          rw [List.filter_cons_of_pos (p := fun x => p (f x)) hp] at ha
          cases ha
          exact ⟨rfl, hx⟩
  | cons y ys ih =>
      cases xs with
      | nil => cases ha
      | cons x xs =>
          obtain ⟨hxy, hrest⟩ := List.cons_prefix_cons.mp h
          apply ih hrest
          by_cases hp : p (f x) = true
          · have hp' : p (g y) = true := hxy ▸ hp
            rwa [List.filter_cons_of_pos (p := fun x => p (f x)) hp,
              List.filter_cons_of_pos (p := fun y => p (g y)) hp', List.length_cons,
              List.getElem?_cons_succ] at ha
          · have hp' : ¬ p (g y) = true := hxy ▸ hp
            rwa [List.filter_cons_of_neg (p := fun x => p (f x)) hp,
              List.filter_cons_of_neg (p := fun y => p (g y)) hp'] at ha

/-- A key below the first one of a sorted log does not occur in it. -/
theorem filter_eq_nil_of_lt [LinearOrder κ] {a : κ × α} {l : List (κ × α)} {k : κ}
    (h : (a :: l).Pairwise fun a b => a.1 ≤ b.1) (hk : k < a.1) :
    (a :: l).filter (·.1 = k) = [] := by
  rw [List.filter_eq_nil_iff]
  intro x hx
  have hle : a.1 ≤ x.1 := by
    rcases List.mem_cons.mp hx with rfl | hx
    · exact le_rfl
    · exact (List.pairwise_cons.mp h).1 x hx
  simpa using (lt_of_lt_of_le hk hle).ne'

/-- **Logs that agree session by session.** Two logs sorted by their key, such that for every key
the entries of `l₁` are a subsequence of those of `l₂`: then `l₁` is a subsequence of `l₂`. -/
theorem sublist_of_sorted_of_filter [LinearOrder κ] {l₁ l₂ : List (κ × α)}
    (h₁ : l₁.Pairwise fun a b => a.1 ≤ b.1) (h₂ : l₂.Pairwise fun a b => a.1 ≤ b.1)
    (h : ∀ k, (l₁.filter (·.1 = k)).Sublist (l₂.filter (·.1 = k))) : l₁.Sublist l₂ := by
  induction l₂ generalizing l₁ with
  | nil =>
      cases l₁ with
      | nil => exact List.Sublist.slnil
      | cons a t => simpa using h a.1
  | cons b t₂ ih =>
      cases l₁ with
      | nil => exact List.nil_sublist _
      | cons a t₁ =>
          have ht₂ := (List.pairwise_cons.mp h₂).2
          have hother : ∀ k, k ≠ b.1 →
              ((a :: t₁).filter (·.1 = k)).Sublist (t₂.filter (·.1 = k)) := fun k hk => by
            have := h k
            rwa [List.filter_cons_of_neg (l := t₂) (by simpa using fun e => hk e.symm)] at this
          rcases lt_trichotomy a.1 b.1 with hlt | heq | hgt
          · -- the smallest key of `l₁` does not occur in `l₂` at all
            have := h a.1
            rw [filter_eq_nil_of_lt h₂ hlt, List.filter_cons_of_pos (by simp)] at this
            cases this
          · have hk := h b.1
            rw [List.filter_cons_of_pos (by simpa using heq),
              List.filter_cons_of_pos (by simp)] at hk
            cases hk with
            | cons _ hrest =>
                -- `b` was lost: it is skipped
                refine List.Sublist.cons _ (ih h₁ ht₂ fun k => ?_)
                by_cases hkb : k = b.1
                · subst hkb
                  rwa [List.filter_cons_of_pos (by simpa using heq)]
                · exact hother k hkb
            | cons_cons _ hrest =>
                refine List.Sublist.cons_cons _ (ih (List.pairwise_cons.mp h₁).2 ht₂ fun k => ?_)
                by_cases hkb : k = b.1
                · subst hkb; exact hrest
                · have := hother k hkb
                  rwa [List.filter_cons_of_neg (by simpa using fun e => hkb e.symm)] at this
          · -- `b` has a key below all of `l₁`: it is skipped
            refine List.Sublist.cons _ (ih h₁ ht₂ fun k => ?_)
            by_cases hkb : k = b.1
            · subst hkb
              rw [filter_eq_nil_of_lt h₁ hgt]
              exact List.nil_sublist _
            · exact hother k hkb

/-! ## Keyed logs -/

section Keyed

variable [DecidableEq κ]

/-- The values a keyed log holds for the key `k`, in order. -/
def valuesAt (k : κ) (l : List (κ × α)) : List α := (l.filter (·.1 = k)).map Prod.snd

@[simp] theorem valuesAt_nil (k : κ) : valuesAt k ([] : List (κ × α)) = [] := rfl

@[simp] theorem valuesAt_append (k : κ) (l l' : List (κ × α)) :
    valuesAt k (l ++ l') = valuesAt k l ++ valuesAt k l' := by
  simp [valuesAt]

@[simp] theorem valuesAt_cons_self (k : κ) (a : α) (l : List (κ × α)) :
    valuesAt k ((k, a) :: l) = a :: valuesAt k l := by
  simp [valuesAt]

theorem valuesAt_cons_of_ne {k k' : κ} (h : k' ≠ k) (a : α) (l : List (κ × α)) :
    valuesAt k ((k', a) :: l) = valuesAt k l := by
  simp [valuesAt, h]

/-- What a single entry says about a key. -/
theorem valuesAt_singleton (k k' : κ) (a : α) :
    valuesAt k [(k', a)] = if k' = k then [a] else [] := by
  by_cases h : k' = k
  · simp [valuesAt, h]
  · simp [valuesAt, h]

/-- A key that does not occur has no values. -/
theorem valuesAt_eq_nil {k : κ} {l : List (κ × α)} (h : ∀ x ∈ l, x.1 ≠ k) : valuesAt k l = [] := by
  rw [valuesAt, List.map_eq_nil_iff, List.filter_eq_nil_iff]
  intro x hx
  simpa using h x hx

/-- A log in which only one key occurs holds that key's values. -/
theorem map_snd_eq_valuesAt {k : κ} {l : List (κ × α)} (h : ∀ x ∈ l, x.1 = k) :
    l.map Prod.snd = valuesAt k l := by
  rw [valuesAt, List.filter_eq_self.mpr fun x hx => by simpa using h x hx]

/-- Mapping the values of a log maps the values of each key. -/
theorem valuesAt_map (k : κ) (f : α → β) (l : List (κ × α)) :
    valuesAt k (l.map (Prod.map id f)) = (valuesAt k l).map f := by
  simp only [valuesAt, List.filter_map, List.map_map]
  rfl

/-- Choosing among the values of a log chooses among the values of each key. -/
theorem valuesAt_filterMap (k : κ) (f : α → Option β) (l : List (κ × α)) :
    valuesAt k (l.filterMap fun x => (f x.2).map (x.1, ·)) = (valuesAt k l).filterMap f := by
  induction l with
  | nil => rfl
  | cons x l ih =>
      obtain ⟨k', a⟩ := x
      by_cases hk : k' = k
      · subst hk
        cases ha : f a with
        | none =>
            rw [List.filterMap_cons_none (by rw [ha]; rfl), valuesAt_cons_self,
              List.filterMap_cons_none ha, ih]
        | some b =>
            rw [List.filterMap_cons_some (by rw [ha]; rfl), valuesAt_cons_self, valuesAt_cons_self,
              List.filterMap_cons_some ha, ih]
      · rw [valuesAt_cons_of_ne hk, ← ih]
        cases ha : f a with
        | none => rw [List.filterMap_cons_none (by rw [ha]; rfl)]
        | some b => rw [List.filterMap_cons_some (by rw [ha]; rfl), valuesAt_cons_of_ne hk]

/-- Filtering the values of a log filters the values of each key. -/
theorem valuesAt_filter (k : κ) (p : α → Bool) (l : List (κ × α)) :
    valuesAt k (l.filter fun x => p x.2) = (valuesAt k l).filter p := by
  rw [valuesAt, valuesAt, List.filter_map, List.filter_comm]
  rfl

/-- If each value tells its key, the values of a key can be told from all values. -/
theorem filter_map_snd {f : α → β} {key : β → Option κ} {l : List (κ × α)}
    (h : ∀ x ∈ l, key (f x.2) = some x.1) (k : κ) :
    ((l.map Prod.snd).map f).filter (fun b => key b = some k) = (valuesAt k l).map f := by
  rw [List.map_map, List.filter_map, valuesAt, List.map_map]
  congr 1
  apply List.filter_congr
  intro x hx
  simp [h x hx]

/-- The entries of a key are its values, each with the key. -/
theorem filter_eq_map_valuesAt (k : κ) (l : List (κ × α)) :
    l.filter (·.1 = k) = (valuesAt k l).map (k, ·) := by
  rw [valuesAt, List.map_map]
  symm
  rw [List.map_congr_left (g := id)]
  · exact List.map_id _
  · rintro ⟨k', a⟩ hx
    simp only [List.mem_filter, decide_eq_true_eq] at hx
    simp [hx.2]

end Keyed

/-- **Logs that agree session by session**, said with the values of each session. -/
theorem sublist_of_sorted [LinearOrder κ] {l₁ l₂ : List (κ × α)}
    (h₁ : l₁.Pairwise fun a b => a.1 ≤ b.1) (h₂ : l₂.Pairwise fun a b => a.1 ≤ b.1)
    (h : ∀ k, (valuesAt k l₁).Sublist (valuesAt k l₂)) : l₁.Sublist l₂ :=
  sublist_of_sorted_of_filter h₁ h₂ fun k => by
    rw [filter_eq_map_valuesAt, filter_eq_map_valuesAt]
    exact (h k).map _

/-- Sorted logs with the same values for every key are the same. -/
theorem eq_of_sorted [LinearOrder κ] {l₁ l₂ : List (κ × α)}
    (h₁ : l₁.Pairwise fun a b => a.1 ≤ b.1) (h₂ : l₂.Pairwise fun a b => a.1 ≤ b.1)
    (h : ∀ k, valuesAt k l₁ = valuesAt k l₂) : l₁ = l₂ := by
  have hle : l₁.Sublist l₂ := sublist_of_sorted h₁ h₂ fun k => h k ▸ List.Sublist.refl _
  have hge : l₂.Sublist l₁ := sublist_of_sorted h₂ h₁ fun k => h k ▸ List.Sublist.refl _
  exact hle.antisymm hge

/-- Values chosen from a sorted log are sorted. -/
theorem pairwise_filterMap_values [LE κ] (f : α → Option β) {l : List (κ × α)}
    (h : l.Pairwise fun a b => a.1 ≤ b.1) :
    (l.filterMap fun x => (f x.2).map (x.1, ·)).Pairwise fun a b => a.1 ≤ b.1 := by
  refine List.Pairwise.filterMap _ ?_ h
  rintro a b hab x hx y hy
  obtain ⟨_, -, rfl⟩ := Option.map_eq_some_iff.mp hx
  obtain ⟨_, -, rfl⟩ := Option.map_eq_some_iff.mp hy
  exact hab

/-- Choosing from the entries of a log chooses from its values. -/
theorem map_snd_filterMap_values (f : α → Option β) (l : List (κ × α)) :
    (l.filterMap fun x => (f x.2).map (x.1, ·)).map Prod.snd = (l.map Prod.snd).filterMap f := by
  rw [List.map_filterMap, List.filterMap_map]
  apply List.filterMap_congr
  intro x _
  rw [Option.map_map]
  exact Option.map_id'

/-- **Sorted logs of different things** that tell the same for every key tell the same as wholes. -/
theorem filterMap_eq_of_sorted [LinearOrder κ] {l₁ : List (κ × α)} {l₂ : List (κ × β)}
    {f : α → Option μ} {g : β → Option μ} (h₁ : l₁.Pairwise fun a b => a.1 ≤ b.1)
    (h₂ : l₂.Pairwise fun a b => a.1 ≤ b.1)
    (h : ∀ k, (valuesAt k l₁).filterMap f = (valuesAt k l₂).filterMap g) :
    (l₁.map Prod.snd).filterMap f = (l₂.map Prod.snd).filterMap g := by
  have hkeyed := eq_of_sorted (pairwise_filterMap_values f h₁) (pairwise_filterMap_values g h₂)
    fun k => by rw [valuesAt_filterMap, valuesAt_filterMap, h k]
  have hsnd := congrArg (List.map Prod.snd) hkeyed
  rwa [map_snd_filterMap_values, map_snd_filterMap_values] at hsnd

/-- Entries taken from a history whose keys are in order are in order. -/
theorem pairwise_filterMap_of_sorted [LE κ] {ο : Type*} {key : ο → Option κ}
    {g : ο → Option (κ × α)} (hg : ∀ o k a, g o = some (k, a) → key o = some k) {l : List ο}
    (h : (l.filterMap key).Pairwise (· ≤ ·)) :
    (l.filterMap g).Pairwise fun a b => a.1 ≤ b.1 := by
  rw [← List.pairwise_map (f := Prod.fst) (R := (· ≤ ·))]
  refine h.sublist ?_
  clear h
  induction l with
  | nil => exact List.Sublist.slnil
  | cons o l ih =>
      cases ho : g o with
      | none =>
          rw [List.filterMap_cons_none ho]
          cases hk : key o with
          | none => rwa [List.filterMap_cons_none hk]
          | some k => rw [List.filterMap_cons_some hk]; exact ih.cons k
      | some x =>
          obtain ⟨k, a⟩ := x
          rw [List.filterMap_cons_some ho, List.filterMap_cons_some (hg o k a ho), List.map_cons]
          exact ih.cons_cons k

/-! ## Numbered sessions -/

/-- Session numbers that come in order and stay below `n`, the number of the next session. -/
structure Ordered (keys : List Nat) (n : Nat) : Prop where
  /-- They come in order. -/
  sorted : keys.Pairwise (· ≤ ·)
  /-- They are below the next one. -/
  below : ∀ k ∈ keys, k < n

/-- No session yet. -/
theorem Ordered.nil (n : Nat) : Ordered [] n := ⟨List.Pairwise.nil, nofun⟩

/-- What happens next is about one session, the last one or one not opened before. -/
theorem Ordered.append {keys out : List Nat} {n n' k : Nat} (h : Ordered keys n) (hle : n ≤ n')
    (hk : n ≤ k + 1) (hout : ∀ k' ∈ out, k' = k ∧ k < n') : Ordered (keys ++ out) n' := by
  constructor
  · rw [List.pairwise_append]
    refine ⟨h.sorted, ?_, ?_⟩
    · exact List.pairwise_of_forall_mem_list fun a ha b hb =>
        Nat.le_of_eq ((hout a ha).1.trans (hout b hb).1.symm)
    · intro a ha b hb
      have := h.below a ha
      rw [(hout b hb).1]
      omega
  · intro a ha
    rcases List.mem_append.mp ha with ha | ha
    · exact Nat.lt_of_lt_of_le (h.below a ha) hle
    · rw [(hout a ha).1]
      exact (hout a ha).2

/-- Nothing has happened yet in a session that is not opened. -/
theorem Ordered.valuesAt_eq_nil {ο : Type*} {key : ο → Option Nat} {g : ο → Option (Nat × α)}
    (hg : ∀ o k a, g o = some (k, a) → key o = some k) {l : List ο} {n k : Nat}
    (h : Ordered (l.filterMap key) n) (hk : n ≤ k) : valuesAt k (l.filterMap g) = [] := by
  refine Framing.valuesAt_eq_nil fun x hx heq => ?_
  obtain ⟨o, ho, hgo⟩ := List.mem_filterMap.mp hx
  have := h.below x.1 (List.mem_filterMap.mpr ⟨o, ho, hg o x.1 x.2 hgo⟩)
  omega

end Framing
