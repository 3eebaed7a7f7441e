import Mathlib.Data.List.Basic
import Mathlib.Data.List.Induction
import Mathlib.Data.List.Nodup
import Mathlib.Data.Nat.Find
import Mathlib.Algebra.Order.Group.Nat

/-!
# One counter shared by several channels

In every round the channels are served in a fixed order until one of them
fails, so a round is described by how many were served. Each delivery is stamped
with a counter that only advances after a round that served every channel. The
stamps of a channel repeat exactly when a cut-short round is followed by another
delivery.
-/

namespace RoundCounter

universe u

structure Delivery (κ : Type u) where
  round : Nat
  channel : κ
  stamp : Nat
  deriving DecidableEq

variable {κ : Type u}

/-- The deliveries of rounds `round`, `round + 1`, ... when `full` rounds have
served everything so far. -/
def log (channels : List κ) (period : Nat) : Nat → Nat → List Nat → List (Delivery κ)
  | _, _, [] => []
  | round, full, d :: ds =>
    (channels.take d).map (fun c => ⟨round, c, full % period⟩) ++
      log channels period (round + 1) (if channels.length ≤ d then full + 1 else full) ds

/-- The rounds that served all `n` channels. -/
def fullRounds (n : Nat) (ds : List Nat) : Nat := ds.countP (fun d => n ≤ d)

/-- No two neighbouring deliveries of a channel, less than `window` rounds
apart, carry one stamp. -/
def Fresh (window : Nat) (ds : List (Delivery κ)) : Prop :=
  ∀ pre a mid b post, ds = pre ++ a :: (mid ++ b :: post) → a.channel = b.channel →
    (∀ c ∈ mid, c.channel ≠ a.channel) → b.round < a.round + window → a.stamp ≠ b.stamp

/-- After a round that served some but not all of `n` channels, the rounds
within the window serve none. -/
def NoRetry (n window : Nat) (ds : List Nat) : Prop :=
  ∀ r r' d d', r < r' → r' < r + window → ds[r]? = some d → ds[r']? = some d' →
    0 < d → d < n → d' = 0

theorem fullRounds_append (n : Nat) (ds es : List Nat) :
    fullRounds n (ds ++ es) = fullRounds n ds + fullRounds n es :=
  List.countP_append

theorem add_fullRounds_cons (n full d : Nat) (ds : List Nat) :
    full + fullRounds n (d :: ds) =
      (if n ≤ d then full + 1 else full) + fullRounds n ds := by
  simp only [fullRounds, List.countP_cons, decide_eq_true_eq]
  split <;> omega

theorem fullRounds_take_succ (n : Nat) {ds : List Nat} {r d : Nat} (h : ds[r]? = some d) :
    fullRounds n (ds.take (r + 1)) = fullRounds n (ds.take r) + if n ≤ d then 1 else 0 := by
  rw [List.take_add_one, h, fullRounds_append]
  simp [fullRounds, List.countP_cons]

/-- Rounds that are not full leave the counter alone. -/
theorem fullRounds_take_eq (n : Nat) {ds : List Nat} {r r' : Nat} (hrr : r ≤ r')
    (none_full : ∀ s d, r ≤ s → s < r' → ds[s]? = some d → d < n) :
    fullRounds n (ds.take r') = fullRounds n (ds.take r) := by
  induction r' with
  | zero =>
    obtain rfl : r = 0 := by omega
    rfl
  | succ r' ih =>
    by_cases he : r = r' + 1
    · rw [he]
    · have hle : r ≤ r' := by omega
      have hprev := ih hle (fun s d hs hs' => none_full s d hs (by omega))
      cases hd : ds[r']? with
      | none => rw [List.take_add_one, hd]; simpa using hprev
      | some d =>
        rw [fullRounds_take_succ n hd, if_neg (Nat.not_le.mpr (none_full r' d hle (by omega) hd))]
        exact hprev

theorem log_append (channels : List κ) (period round full : Nat) (ds es : List Nat) :
    log channels period round full (ds ++ es) =
      log channels period round full ds ++
        log channels period (round + ds.length) (full + fullRounds channels.length ds) es := by
  induction ds generalizing round full with
  | nil => simp [log, fullRounds]
  | cons d ds ih =>
    have hround : round + (d :: ds).length = round + 1 + ds.length := by
      simp only [List.length_cons]
      omega
    rw [List.cons_append, log, log, ih, List.append_assoc, hround, add_fullRounds_cons]

/-- What a delivery of the log says about its round. -/
theorem mem_log_iff (channels : List κ) (period round full : Nat) (ds : List Nat)
    (x : Delivery κ) :
    x ∈ log channels period round full ds ↔
      ∃ r d, ds[r]? = some d ∧ x.round = round + r ∧ x.channel ∈ channels.take d ∧
        x.stamp = (full + fullRounds channels.length (ds.take r)) % period := by
  induction ds generalizing round full with
  | nil => simp [log]
  | cons d ds ih =>
    rw [log, List.mem_append, ih]
    constructor
    · rintro (hx | ⟨r, e, he, hr, hc, hs⟩)
      · obtain ⟨c, hc, rfl⟩ := List.mem_map.mp hx
        exact ⟨0, d, rfl, rfl, hc, by simp [fullRounds]⟩
      · refine ⟨r + 1, e, by simpa using he, by omega, hc, ?_⟩
        rw [hs, List.take_succ_cons, add_fullRounds_cons]
    · rintro ⟨r, e, he, hr, hc, hs⟩
      cases r with
      | zero =>
        obtain rfl : d = e := by simpa using he
        refine Or.inl (List.mem_map.mpr ⟨x.channel, hc, ?_⟩)
        obtain ⟨xr, xc, xs⟩ := x
        simp only [List.take_zero, fullRounds, List.countP_nil, Nat.add_zero] at hr hs
        simp only [hr, hs]
      | succ r =>
        refine Or.inr ⟨r, e, by simpa using he, by omega, hc, ?_⟩
        rw [hs, List.take_succ_cons, add_fullRounds_cons]

/-- Deliveries are ordered by round, and a round serves a channel once. -/
theorem log_pairwise {channels : List κ} (distinct : channels.Nodup) (period round full : Nat)
    (ds : List Nat) :
    (log channels period round full ds).Pairwise
      (fun a b => a.round < b.round ∨ a.round = b.round ∧ a.channel ≠ b.channel) := by
  induction ds generalizing round full with
  | nil => exact List.Pairwise.nil
  | cons d ds ih =>
    rw [log, List.pairwise_append]
    refine ⟨?_, ih _ _, ?_⟩
    · rw [List.pairwise_map]
      have htake : (channels.take d).Nodup := distinct.sublist (List.take_sublist d channels)
      exact htake.imp (fun hne => Or.inr ⟨rfl, hne⟩)
    · intro a ha b hb
      obtain ⟨c, _, rfl⟩ := List.mem_map.mp ha
      obtain ⟨r, e, _, hr, _⟩ := (mem_log_iff channels period _ _ ds b).mp hb
      left
      change round < b.round
      omega

theorem head_mem_take {channels : List κ} {c : κ} {d : Nat} (hc : channels.head? = some c)
    (hd : 0 < d) : c ∈ channels.take d := by
  cases channels with
  | nil => cases hc
  | cons x xs =>
    obtain rfl : x = c := by simpa using hc
    obtain ⟨e, rfl⟩ : ∃ e, d = e + 1 := ⟨d - 1, by omega⟩
    simp

section Freshness
variable {channels : List κ} (distinct : channels.Nodup) (period full : Nat) (ds : List Nat)

include distinct in
/-- Two deliveries of one channel are neighbours when every round between them
served nothing on that channel. -/
theorem log_neighbours {r r' d d' : Nat} {c : κ} (hrr : r < r') (hd : ds[r]? = some d)
    (hd' : ds[r']? = some d') (hc : c ∈ channels.take d) (hc' : c ∈ channels.take d')
    (quiet : ∀ s e, r < s → s < r' → ds[s]? = some e → c ∉ channels.take e) :
    ∃ pre mid post, log channels period 0 full ds =
        pre ++ ⟨r, c, (full + fullRounds channels.length (ds.take r)) % period⟩ ::
          (mid ++ ⟨r', c, (full + fullRounds channels.length (ds.take r')) % period⟩ :: post) ∧
      ∀ x ∈ mid, x.channel ≠ c := by
  have hmem := fun x => mem_log_iff channels period 0 full ds x
  have hpair := log_pairwise distinct period 0 full ds
  obtain ⟨pre, rest, hlog⟩ := List.append_of_mem
    ((hmem ⟨r, c, _⟩).mpr ⟨r, d, hd, by simp, hc, rfl⟩)
  have hb := (hmem ⟨r', c, _⟩).mpr ⟨r', d', hd', by simp, hc', rfl⟩
  rw [hlog] at hb hpair
  have hafter := (List.pairwise_cons.mp (List.pairwise_append.mp hpair).2.1).1
  have hbefore := (List.pairwise_append.mp hpair).2.2
  have hrest : ⟨r', c, (full + fullRounds channels.length (ds.take r')) % period⟩ ∈ rest := by
    rcases List.mem_append.mp hb with hpre | hb
    · rcases hbefore _ hpre _ List.mem_cons_self with hlt | ⟨_, hne⟩
      · change r' < r at hlt
        omega
      · exact absurd rfl hne
    · rcases List.mem_cons.mp hb with heq | hrest
      · have hround : r' = r := congrArg Delivery.round heq
        omega
      · exact hrest
  obtain ⟨mid, post, hsplit⟩ := List.append_of_mem hrest
  refine ⟨pre, mid, post, by rw [hlog, hsplit], ?_⟩
  intro x hx hxc
  have hxrest : x ∈ rest := by rw [hsplit]; exact List.mem_append_left _ hx
  have hxlog : x ∈ log channels period 0 full ds := by
    rw [hlog]
    exact List.mem_append_right _ (List.mem_cons_of_mem _ hxrest)
  obtain ⟨s, e, he, hs, hxe, _⟩ := (hmem x).mp hxlog
  have hlow : r < x.round := by
    rcases hafter x hxrest with hlt | ⟨_, hne⟩
    · exact hlt
    · exact absurd hxc.symm hne
  have hhigh : x.round < r' := by
    have hpost := (List.pairwise_cons.mp (List.pairwise_append.mp hpair).2.1).2
    rw [hsplit] at hpost
    rcases (List.pairwise_append.mp hpost).2.2 x hx _ List.mem_cons_self with hlt | ⟨_, hne⟩
    · exact hlt
    · exact absurd hxc hne
  exact quiet s e (by omega) (by omega) he (hxc ▸ hxe)

include distinct in
/-- Conversely, no round between two neighbouring deliveries serves the channel. -/
theorem neighbours_quiet {pre mid post : List (Delivery κ)} {a b : Delivery κ}
    (hlog : log channels period 0 full ds = pre ++ a :: (mid ++ b :: post))
    (hab : a.channel = b.channel) (hmid : ∀ c ∈ mid, c.channel ≠ a.channel) :
    a.round < b.round ∧ ∀ s e, a.round < s → s < b.round → ds[s]? = some e →
      a.channel ∉ channels.take e := by
  have hpair := log_pairwise distinct period 0 full ds
  rw [hlog] at hpair
  obtain ⟨_, hpost, hpre⟩ := List.pairwise_append.mp hpair
  obtain ⟨hafter, htail⟩ := List.pairwise_cons.mp hpost
  have hlater := (List.pairwise_cons.mp (List.pairwise_append.mp htail).2.1).1
  constructor
  · rcases hafter b (by simp) with hlt | ⟨_, hne⟩
    · exact hlt
    · exact absurd hab hne
  · intro s e hs hs' he hc
    have hx : (⟨s, a.channel, _⟩ : Delivery κ) ∈ log channels period 0 full ds :=
      (mem_log_iff channels period 0 full ds ⟨s, a.channel, _⟩).mpr
        ⟨s, e, he, by simp, hc, rfl⟩
    rw [hlog] at hx
    rcases List.mem_append.mp hx with hx | hx
    · rcases hpre _ hx a List.mem_cons_self with hlt | ⟨_, hne⟩
      · exact Nat.lt_asymm hs hlt
      · exact hne rfl
    rcases List.mem_cons.mp hx with heq | hx
    · exact Nat.ne_of_gt hs (congrArg Delivery.round heq)
    rcases List.mem_append.mp hx with hx | hx
    · exact hmid _ hx rfl
    rcases List.mem_cons.mp hx with heq | hx
    · exact Nat.ne_of_lt hs' (congrArg Delivery.round heq)
    · rcases hlater _ hx with hlt | ⟨heq, _⟩
      · exact Nat.lt_asymm hs' hlt
      · exact Nat.ne_of_gt hs' heq

include distinct in
/-- After a cut-short round the counter stands still until something is served
again, so the first channel then repeats its stamp. -/
theorem noRetry_of_fresh {window : Nat} (nonempty : channels ≠ [])
    (fresh : Fresh window (log channels period 0 full ds)) :
    NoRetry channels.length window ds := by
  intro r r' d d' hrr hwin hd hd' hpos hshort
  by_contra hne
  have hex : ∃ s, r < s ∧ ∃ e, ds[s]? = some e ∧ 0 < e := ⟨r', hrr, d', hd', by omega⟩
  classical
  obtain ⟨hs, e, he, hepos⟩ := Nat.find_spec hex
  have hmin := fun m (hm : m < Nat.find hex) => Nat.find_min hex hm
  have hle : Nat.find hex ≤ r' := Nat.find_min' hex ⟨hrr, d', hd', by omega⟩
  generalize Nat.find hex = s at hs he hmin hle
  have quiet : ∀ t x, r < t → t < s → ds[t]? = some x → x = 0 := by
    intro t x ht ht' hx
    by_contra h0
    exact hmin t ht' ⟨ht, x, hx, by omega⟩
  have hc := List.head?_eq_some_head nonempty
  obtain ⟨pre, mid, post, hlog, hmid⟩ := log_neighbours distinct period full ds hs hd he
    (head_mem_take hc hpos) (head_mem_take hc hepos) (by
      intro t x ht ht' hx
      simp [quiet t x ht ht' hx])
  refine fresh pre _ mid _ post hlog rfl hmid (by change s < r + window; omega) ?_
  have none_full : ∀ t x, r ≤ t → t < s → ds[t]? = some x → x < channels.length := by
    intro t x ht ht' hx
    rcases Nat.eq_or_lt_of_le ht with rfl | ht
    · obtain rfl : d = x := Option.some.inj (hd.symm.trans hx)
      exact hshort
    · have := quiet t x ht ht' hx
      omega
  have hsame := fullRounds_take_eq channels.length (Nat.le_of_lt hs) none_full
  simp only [hsame]

include distinct in
/-- A complete round advances the counter once, and no other complete round can
hide between two neighbouring deliveries. -/
theorem fresh_of_noRetry {window : Nat} (hperiod : 1 < period)
    (noRetry : NoRetry channels.length window ds) :
    Fresh window (log channels period 0 full ds) := by
  intro pre a mid b post hlog hab hmid hwin hstamp
  obtain ⟨hround, quiet⟩ := neighbours_quiet distinct period full ds hlog hab hmid
  obtain ⟨r, d, hd, har, hac, has⟩ :=
    (mem_log_iff channels period 0 full ds a).mp (by rw [hlog]; simp)
  obtain ⟨r', d', hd', hbr, hbc, hbs⟩ :=
    (mem_log_iff channels period 0 full ds b).mp (by rw [hlog]; simp)
  have served : ∀ {c : κ} {e : Nat}, c ∈ channels.take e → 0 < e := by
    intro c e hc
    rcases Nat.eq_zero_or_pos e with rfl | h
    · simp at hc
    · exact h
  by_cases hfull : d < channels.length
  · have hnone := noRetry r r' d d' (by omega) (by omega) hd hd' (served hac) hfull
    have := served hbc
    omega
  · have between : ∀ s e, r + 1 ≤ s → s < r' → ds[s]? = some e → e < channels.length := by
      intro s e hs hs' he
      by_contra hge
      refine quiet s e (by omega) (by omega) he ?_
      rw [List.take_of_length_le (Nat.not_lt.mp hge)]
      exact List.mem_of_mem_take hac
    have hstep := fullRounds_take_succ channels.length hd
    rw [if_pos (Nat.not_lt.mp hfull)] at hstep
    have hrest := fullRounds_take_eq channels.length (show r + 1 ≤ r' by omega) between
    rw [has, hbs, hrest, hstep] at hstamp
    have hone := Nat.sub_mod_eq_zero_of_mod_eq hstamp.symm
    rw [show full + (fullRounds channels.length (ds.take r) + 1) -
      (full + fullRounds channels.length (ds.take r)) = 1 by omega,
      Nat.mod_eq_of_lt hperiod] at hone
    omega

include distinct in
theorem fresh_log_iff {window : Nat} (nonempty : channels ≠ []) (hperiod : 1 < period) :
    Fresh window (log channels period 0 full ds) ↔ NoRetry channels.length window ds :=
  ⟨noRetry_of_fresh distinct period full ds nonempty,
    fresh_of_noRetry distinct period full ds hperiod⟩

include distinct in
/-- When no round is cut short, every channel sees the counter run through
`0, 1, 2, ...` without gap or repetition. -/
theorem stamps_of_complete (complete : ∀ d ∈ ds, d = 0 ∨ channels.length ≤ d) {c : κ}
    (hc : c ∈ channels) [DecidableEq κ] :
    ((log channels period 0 0 ds).filter (fun x => x.channel = c)).map Delivery.stamp =
      (List.range (fullRounds channels.length ds)).map (fun i => i % period) := by
  induction ds using List.reverseRecOn with
  | nil => rfl
  | append_singleton ds d ih =>
    have hprev := ih (fun e he => complete e (List.mem_append_left _ he))
    have hpos : 0 < channels.length := List.length_pos_of_mem hc
    rw [log_append, fullRounds_append, List.filter_append, List.map_append, hprev]
    rcases complete d (by simp) with rfl | hfull
    · simp [log, fullRounds, Nat.not_le.mpr hpos]
    · have hone : channels.filter (fun x => x = c) = [c] := by
        have hcount := List.filter_eq (l := channels) c
        rwa [List.count_eq_one_of_mem distinct hc] at hcount
      have hblock : (channels.map (fun x => (⟨0 + ds.length, x,
            (0 + fullRounds channels.length ds) % period⟩ : Delivery κ))).filter
          (fun x => x.channel = c) =
          [⟨0 + ds.length, c, (0 + fullRounds channels.length ds) % period⟩] := by
        rw [List.filter_map]
        change List.map _ (channels.filter (fun x => x = c)) = _
        rw [hone]
        rfl
      simp only [log, List.take_of_length_le hfull, List.append_nil, hblock]
      simp [fullRounds, hfull, List.range_succ]

end Freshness

end RoundCounter
