import Mathlib.Data.List.Induction
import Mathlib.Data.List.Nodup
import Mathlib.Algebra.Order.Group.Nat

/-!
# A screen that is drawn in stamped packets

A packet names a channel and carries a block of cells, the first cells of that channel. A
short block leaves the other cells alone. A lenient screen draws every packet, a strict one
ignores a packet that repeats the stamp it saw last on the channel. In a round the channels
are served in a fixed order until one of them fails, and the stamp moves on after a round that
served them all.
-/

namespace Screens

universe u v
variable {κ : Type u} {β : Type v} [DecidableEq κ]

structure Packet (κ : Type u) (β : Type v) where
  channel : κ
  stamp : Nat
  block : List β

structure Screen (κ : Type u) (β : Type v) where
  seen : κ → Option Nat
  cell : κ → Nat → β

def Screen.draw (s : Screen κ β) (p : Packet κ β) : Screen κ β where
  seen := Function.update s.seen p.channel (some p.stamp)
  cell := Function.update s.cell p.channel fun o => p.block.getD o (s.cell p.channel o)

def Screen.hear (strict : Bool) (s : Screen κ β) (p : Packet κ β) : Screen κ β :=
  if strict = true ∧ s.seen p.channel = some p.stamp then s else s.draw p

def Screen.hearAll (strict : Bool) (s : Screen κ β) (ps : List (Packet κ β)) : Screen κ β :=
  ps.foldl (Screen.hear strict) s

/-- Two screens that cannot be told apart on a channel. -/
def Agree (c : κ) (s t : Screen κ β) : Prop := s.seen c = t.seen c ∧ s.cell c = t.cell c

section Hear
variable {strict : Bool} {s t : Screen κ β} {p : Packet κ β} {c : κ}

omit [DecidableEq κ] in
theorem Agree.trans {r : Screen κ β} (h : Agree c r s) (h' : Agree c s t) : Agree c r t :=
  ⟨h.1.trans h'.1, h.2.trans h'.2⟩

theorem agree_draw_other (h : p.channel ≠ c) : Agree c (s.draw p) s :=
  ⟨Function.update_of_ne (Ne.symm h) _ _, Function.update_of_ne (Ne.symm h) _ _⟩

/-- A packet shows on its own channel only. -/
theorem agree_hear_other (h : p.channel ≠ c) : Agree c (s.hear strict p) s := by
  rw [Screen.hear]
  split
  · exact ⟨rfl, rfl⟩
  · exact agree_draw_other h

theorem Agree.draw (h : Agree c s t) (hp : p.channel = c) : Agree c (s.draw p) (t.draw p) := by
  subst hp
  refine ⟨by simp [Screen.draw], ?_⟩
  simp [Screen.draw, h.2]

theorem Agree.hear (h : Agree c s t) (hp : p.channel = c) :
    Agree c (s.hear strict p) (t.hear strict p) := by
  have hseen : s.seen p.channel = t.seen p.channel := hp ▸ h.1
  rw [Screen.hear, Screen.hear, hseen]
  split
  · exact h
  · exact h.draw hp

@[simp] theorem hearAll_nil : s.hearAll strict [] = s := rfl

theorem hearAll_append (ps qs : List (Packet κ β)) :
    s.hearAll strict (ps ++ qs) = (s.hearAll strict ps).hearAll strict qs :=
  List.foldl_append

theorem hearAll_singleton : s.hearAll strict [p] = s.hear strict p := rfl

/-- Packets of other channels make no difference, nor do any that are left out. -/
theorem Agree.hearAll_filter {q : Packet κ β → Bool} (own : ∀ p, p.channel = c → q p = true)
    (h : Agree c s t) (ps : List (Packet κ β)) :
    Agree c (s.hearAll strict ps) (t.hearAll strict (ps.filter q)) := by
  induction ps generalizing s t with
  | nil => exact h
  | cons p ps ih =>
    by_cases hp : p.channel = c
    · rw [List.filter_cons_of_pos (own p hp)]
      exact ih (h.hear hp)
    · rw [List.filter_cons]
      split
      · exact ih ((agree_hear_other hp).trans (h.trans ⟨(agree_hear_other hp).1.symm,
          (agree_hear_other hp).2.symm⟩))
      · exact ih ((agree_hear_other hp).trans h)

theorem agree_hearAll_filter (strict : Bool) (s : Screen κ β) {q : Packet κ β → Bool}
    (own : ∀ p, p.channel = c → q p = true) (ps : List (Packet κ β)) :
    Agree c (s.hearAll strict ps) (s.hearAll strict (ps.filter q)) :=
  Agree.hearAll_filter own ⟨rfl, rfl⟩ ps

theorem agree_hearAll_of_not_mem {ps : List (Packet κ β)} (h : c ∉ ps.map Packet.channel) :
    Agree c (s.hearAll strict ps) s := by
  have hnone : ps.filter (fun p => p.channel = c) = [] := by
    rw [List.filter_eq_nil_iff]
    intro p hp hc
    exact h (List.mem_map.mpr ⟨p, hp, by simpa using hc⟩)
  have hfilter := agree_hearAll_filter strict s (c := c) (q := fun p => p.channel = c)
    (by simp) ps
  rwa [hnone] at hfilter

/-- A strict screen has seen the last stamp whether it drew the packet or not. -/
theorem seen_hearAll (ps : List (Packet κ β)) :
    (s.hearAll strict ps).seen c =
      ((ps.filter fun p => p.channel = c).getLast?.map Packet.stamp).or (s.seen c) := by
  induction ps using List.reverseRecOn with
  | nil => rfl
  | append_singleton ps p ih =>
    rw [hearAll_append, hearAll_singleton, List.filter_append]
    by_cases hp : p.channel = c
    · have hseen : ((s.hearAll strict ps).hear strict p).seen c = some p.stamp := by
        rw [Screen.hear]
        split
        · rename_i hdropped
          rw [← hp]
          exact hdropped.2
        · simp [Screen.draw, hp]
      simp [hseen, hp]
    · rw [(agree_hear_other hp).1, ih]
      simp [hp]

/-- A lenient screen shows the last value drawn. -/
theorem cell_hearAll (ps : List (Packet κ β)) (o : Nat) :
    (s.hearAll false ps).cell c o =
      ((ps.filterMap fun p => if p.channel = c then p.block[o]? else none).getLast?).getD
        (s.cell c o) := by
  induction ps using List.reverseRecOn with
  | nil => rfl
  | append_singleton ps p ih =>
    have hdraw : (s.hearAll false ps).hear false p = (s.hearAll false ps).draw p :=
      if_neg (by simp)
    rw [hearAll_append, hearAll_singleton, hdraw, List.filterMap_append]
    by_cases hp : p.channel = c
    · cases hblock : p.block[o]? with
      | none => simpa [Screen.draw, hp, hblock] using ih
      | some v => simp [Screen.draw, hp, hblock]
    · rw [(agree_draw_other hp).2, ih]
      simp [hp]

end Hear

/-! ## Rounds -/

/-- A round has a block for each channel and serves the first `count` channels. -/
structure Round (β : Type v) where
  count : Nat
  blocks : List (List β)

section Log

def Round.packets (channels : List κ) (stamp : Nat) (r : Round β) : List (Packet κ β) :=
  ((channels.zip r.blocks).map fun pair => ⟨pair.1, stamp, pair.2⟩).take r.count

def fullRounds (n : Nat) (rs : List (Round β)) : Nat := rs.countP fun r => n ≤ r.count

/-- The packets of rounds that follow `full` full ones. -/
def log (channels : List κ) (period : Nat) : Nat → List (Round β) → List (Packet κ β)
  | _, [] => []
  | full, r :: rs => r.packets channels (full % period) ++
      log channels period (if channels.length ≤ r.count then full + 1 else full) rs

omit [DecidableEq κ] in
theorem log_append (channels : List κ) (period full : Nat) (rs rs' : List (Round β)) :
    log channels period full (rs ++ rs') = log channels period full rs ++
      log channels period (full + fullRounds channels.length rs) rs' := by
  induction rs generalizing full with
  | nil => rfl
  | cons r rs ih =>
    have hfull : (if channels.length ≤ r.count then full + 1 else full) +
        fullRounds channels.length rs = full + fullRounds channels.length (r :: rs) := by
      simp only [fullRounds, List.countP_cons, decide_eq_true_eq]
      split <;> omega
    rw [List.cons_append, log, log, ih, hfull, List.append_assoc]

omit [DecidableEq κ] in
theorem log_snoc (channels : List κ) (period full : Nat) (rs : List (Round β)) (r : Round β) :
    log channels period full (rs ++ [r]) = log channels period full rs ++
      r.packets channels ((full + fullRounds channels.length rs) % period) := by
  rw [log_append, log, log, List.append_nil]

/-- Keys that are distinct single out an item of the list. -/
theorem filter_take_of_getElem? {α : Type*} {key : α → κ} {l : List α}
    (distinct : (l.map key).Nodup) {i : Nat} {x : α} (hx : l[i]? = some x) (n : Nat) :
    (l.take n).filter (fun y => key y = key x) = if i < n then [x] else [] := by
  induction l generalizing i n with
  | nil => cases hx
  | cons y l ih =>
    rw [List.map_cons, List.nodup_cons] at distinct
    cases n with
    | zero => rfl
    | succ n =>
      rw [List.take_succ_cons]
      cases i with
      | zero =>
        obtain rfl : y = x := Option.some.inj hx
        have hrest : (l.take n).filter (fun z => key z = key y) = [] := by
          rw [List.filter_eq_nil_iff]
          intro z hz hkey
          refine distinct.1 (List.mem_map.mpr ⟨z, List.mem_of_mem_take hz, ?_⟩)
          simpa using hkey
        rw [List.filter_cons_of_pos (by simp), hrest, if_pos (Nat.succ_pos n)]
      | succ i =>
        have hx' : l[i]? = some x := hx
        have hne : key y ≠ key x := by
          intro hkey
          exact distinct.1 (hkey ▸ List.mem_map_of_mem (List.mem_of_getElem? hx'))
        rw [List.filter_cons_of_neg (by simpa using hne), ih distinct.2 hx']
        simp

variable {channels : List κ} {i : Nat} {c : κ} {r : Round β} {rs : List (Round β)}

omit [DecidableEq κ] in
theorem channel_of_mem_packets {stamp : Nat} {p : Packet κ β}
    (h : p ∈ r.packets channels stamp) : p.channel ∈ channels := by
  obtain ⟨pair, hpair, rfl⟩ := List.mem_map.mp (List.mem_of_mem_take h)
  exact (List.of_mem_zip hpair).1

omit [DecidableEq κ] in
/-- Rounds keep to their channels. -/
theorem channel_of_mem_log {period full : Nat} {p : Packet κ β}
    (h : p ∈ log channels period full rs) : p.channel ∈ channels := by
  induction rs generalizing full with
  | nil => cases h
  | cons r rs ih =>
    rcases List.mem_append.mp h with h | h
    · exact channel_of_mem_packets h
    · exact ih h

theorem agree_hearAll_log {strict : Bool} {period full : Nat} {s : Screen κ β}
    (h : c ∉ channels) : Agree c (s.hearAll strict (log channels period full rs)) s := by
  refine agree_hearAll_of_not_mem fun hmem => ?_
  obtain ⟨p, hp, rfl⟩ := List.mem_map.mp hmem
  exact h (channel_of_mem_log hp)

omit [DecidableEq κ] in
/-- Rounds send their own blocks. -/
theorem block_of_mem_log {period full : Nat} {p : Packet κ β}
    (h : p ∈ log channels period full rs) : ∃ r ∈ rs, p.block ∈ r.blocks := by
  induction rs generalizing full with
  | nil => cases h
  | cons r rs ih =>
    rcases List.mem_append.mp h with h | h
    · obtain ⟨pair, hpair, rfl⟩ := List.mem_map.mp (List.mem_of_mem_take h)
      exact ⟨r, List.mem_cons_self .., (List.of_mem_zip hpair).2⟩
    · obtain ⟨r', hr', hblock⟩ := ih h
      exact ⟨r', List.mem_cons_of_mem _ hr', hblock⟩

/-- A round that serves the channel draws its block on it. -/
theorem filter_packets (distinct : channels.Nodup) (hc : channels[i]? = some c)
    (fits : r.blocks.length = channels.length) {block : List β}
    (hblock : r.blocks[i]? = some block) (stamp : Nat) :
    (r.packets channels stamp).filter (fun p => p.channel = c) =
      if i < r.count then [⟨c, stamp, block⟩] else [] := by
  have hkeys : (((channels.zip r.blocks).map fun pair =>
      (⟨pair.1, stamp, pair.2⟩ : Packet κ β)).map Packet.channel).Nodup := by
    rw [List.map_map]
    have hfst : (channels.zip r.blocks).map (Packet.channel ∘ fun pair =>
        (⟨pair.1, stamp, pair.2⟩ : Packet κ β)) = (channels.zip r.blocks).map Prod.fst := rfl
    rwa [hfst, List.map_fst_zip fits.ge]
  have hx : ((channels.zip r.blocks).map fun pair =>
      (⟨pair.1, stamp, pair.2⟩ : Packet κ β))[i]? = some ⟨c, stamp, block⟩ := by
    rw [List.getElem?_map, (List.getElem?_zip_eq_some (z := (c, block))).mpr ⟨hc, hblock⟩]
    rfl
  exact filter_take_of_getElem? hkeys hx r.count

/-- A round that serves a channel is one packet to it. -/
theorem agree_hearAll_packets (distinct : channels.Nodup) (hc : channels[i]? = some c)
    (fits : r.blocks.length = channels.length) (hserved : i < r.count) {block : List β}
    (hblock : r.blocks[i]? = some block) (strict : Bool) (stamp : Nat) (s : Screen κ β) :
    Agree c (s.hearAll strict (r.packets channels stamp)) (s.hear strict ⟨c, stamp, block⟩) := by
  have hfilter := agree_hearAll_filter strict s (c := c) (q := fun p => p.channel = c)
    (by simp) (r.packets channels stamp)
  rwa [filter_packets distinct hc fits hblock, if_pos hserved, hearAll_singleton] at hfilter

theorem agree_hearAll_unserved (distinct : channels.Nodup) (hc : channels[i]? = some c)
    (fits : r.blocks.length = channels.length) (hserved : ¬ i < r.count) {block : List β}
    (hblock : r.blocks[i]? = some block) (strict : Bool) (stamp : Nat) (s : Screen κ β) :
    Agree c (s.hearAll strict (r.packets channels stamp)) s := by
  have hfilter := agree_hearAll_filter strict s (c := c) (q := fun p => p.channel = c)
    (by simp) (r.packets channels stamp)
  rwa [filter_packets distinct hc fits hblock, if_neg hserved] at hfilter

/-- What a round draws in cell `o` of channel number `i`. -/
def Round.drawn (i o : Nat) (r : Round β) : Option β :=
  if i < r.count then r.blocks[i]?.bind (·[o]?) else none

/-- Every round has a block for every channel. -/
def Complete (channels : List κ) (rs : List (Round β)) : Prop :=
  ∀ r ∈ rs, r.blocks.length = channels.length

omit [DecidableEq κ] in
theorem Complete.block (h : Complete channels rs) (hr : r ∈ rs) (hc : channels[i]? = some c) :
    ∃ block, r.blocks[i]? = some block := by
  obtain ⟨hi, -⟩ := List.getElem?_eq_some_iff.mp hc
  have hi' : i < r.blocks.length := by rwa [h r hr]
  exact ⟨_, List.getElem?_eq_getElem hi'⟩

/-- On a lenient screen a cell shows the last round that drew it. -/
theorem cell_log (distinct : channels.Nodup) (hc : channels[i]? = some c) (period full : Nat)
    (complete : Complete channels rs) (s : Screen κ β) (o : Nat) :
    (s.hearAll false (log channels period full rs)).cell c o =
      ((rs.filterMap (Round.drawn i o)).getLast?).getD (s.cell c o) := by
  rw [cell_hearAll]
  congr 2
  induction rs generalizing full with
  | nil => rfl
  | cons r rs ih =>
    obtain ⟨block, hblock⟩ := complete.block (List.mem_cons_self ..) hc
    have hround : (r.packets channels (full % period)).filterMap
        (fun p => if p.channel = c then p.block[o]? else none) = (r.drawn i o).toList := by
      have hsplit : ∀ ps : List (Packet κ β),
          ps.filterMap (fun p => if p.channel = c then p.block[o]? else none) =
            (ps.filter fun p => p.channel = c).filterMap fun p => p.block[o]? := by
        intro ps
        rw [List.filterMap_filter]
        simp
      rw [hsplit, filter_packets distinct hc (complete r (List.mem_cons_self ..)) hblock,
        Round.drawn, hblock]
      split
      · cases hcell : block[o]? <;> simp [hcell]
      · rfl
    rw [log, List.filterMap_append, hround, ih _ fun r' hr' => complete r' (by simp [hr'])]
    cases hdrawn : r.drawn i o <;> simp [hdrawn]

/-- On any screen a cell shows what some round drew, or what it showed before. -/
theorem cell_of_some_round (distinct : channels.Nodup) (hc : channels[i]? = some c)
    (strict : Bool) (period full : Nat) (complete : Complete channels rs) (s : Screen κ β)
    (o : Nat) :
    (s.hearAll strict (log channels period full rs)).cell c o = s.cell c o ∨
      ∃ r ∈ rs, r.drawn i o = some ((s.hearAll strict (log channels period full rs)).cell c o) := by
  induction rs using List.reverseRecOn with
  | nil => exact .inl rfl
  | append_singleton rs r ih =>
    have hlast : r ∈ rs ++ [r] := by simp
    obtain ⟨block, hblock⟩ := complete.block hlast hc
    have hprev := ih fun r' hr' => complete r' (List.mem_append_left _ hr')
    rw [log_snoc, hearAll_append]
    generalize s.hearAll strict (log channels period full rs) = t at hprev
    have hearlier : t.cell c o = s.cell c o ∨
        ∃ r' ∈ rs ++ [r], r'.drawn i o = some (t.cell c o) :=
      hprev.imp_right fun ⟨r', hr', hdrawn⟩ => ⟨r', List.mem_append_left _ hr', hdrawn⟩
    by_cases hserved : i < r.count
    · rw [(agree_hearAll_packets distinct hc (complete r hlast) hserved hblock strict _ t).2,
        Screen.hear]
      split
      · exact hearlier
      · cases hcell : block[o]? with
        | none => simpa [Screen.draw, hcell] using hearlier
        | some v =>
          refine .inr ⟨r, hlast, ?_⟩
          simp [Round.drawn, hserved, hblock, Screen.draw, hcell]
    · rw [(agree_hearAll_unserved distinct hc (complete r hlast) hserved hblock strict _ t).2]
      exact hearlier

/-! ### The age of what is shown -/

/-- The number of the last round that served channel number `i`, counted from 1. -/
def age (i : Nat) : List (Round β) → Nat
  | [] => 0
  | r :: rs => if age i rs = 0 then (if i < r.count then 1 else 0) else age i rs + 1

/-- A round that serves a channel has served the channels before it. -/
theorem age_antitone {i j : Nat} (h : i ≤ j) (rs : List (Round β)) : age j rs ≤ age i rs := by
  induction rs with
  | nil => exact Nat.le_refl _
  | cons r rs ih =>
    rw [age, age]
    by_cases hi : age i rs = 0
    · have hj : age j rs = 0 := by omega
      rw [if_pos hi, if_pos hj]
      split
      · rw [if_pos (by omega)]
      · exact Nat.zero_le _
    · rw [if_neg hi]
      split
      · split <;> omega
      · omega

theorem age_cases (i : Nat) (rs : List (Round β)) :
    (age i rs = 0 ∧ ∀ r ∈ rs, ¬ i < r.count) ∨
      ∃ k r, age i rs = k + 1 ∧ rs[k]? = some r ∧ i < r.count ∧
        ∀ r' ∈ rs.drop (k + 1), ¬ i < r'.count := by
  induction rs with
  | nil => exact .inl ⟨rfl, by simp⟩
  | cons r rs ih =>
    rcases ih with ⟨hage, hnone⟩ | ⟨k, r', hage, hr', hserved, hlater⟩
    · by_cases hr : i < r.count
      · exact .inr ⟨0, r, by simp [age, hage, hr], rfl, hr, by simpa using hnone⟩
      · exact .inl ⟨by simp [age, hage, hr], List.forall_mem_cons.mpr ⟨hr, hnone⟩⟩
    · refine .inr ⟨k + 1, r', ?_, hr', hserved, hlater⟩
      rw [age, if_neg (by omega), hage]

theorem age_le_length (i : Nat) (rs : List (Round β)) : age i rs ≤ rs.length := by
  rcases age_cases i rs with ⟨hage, -⟩ | ⟨k, r, hage, hr, -⟩
  · omega
  · obtain ⟨hk, -⟩ := List.getElem?_eq_some_iff.mp hr
    omega

/-- All rounds have blocks of one length on channel number `i`. -/
def Uniform (i : Nat) (rs : List (Round β)) : Prop :=
  ∃ size, ∀ r ∈ rs, ∃ block, r.blocks[i]? = some block ∧ block.length = size

theorem age_snoc (i : Nat) (rs : List (Round β)) (r : Round β) :
    age i (rs ++ [r]) = if i < r.count then rs.length + 1 else age i rs := by
  induction rs with
  | nil => simp [age]
  | cons r' rs ih =>
    rw [List.cons_append, age, ih, age, List.length_cons]
    by_cases hr : i < r.count <;> simp [hr]

/-- Channel number `i` shows round `k` as a whole, counted from 1, or nothing new. -/
inductive Shows (i : Nat) (rs : List (Round β)) (before after : Nat → β) : Nat → Prop where
  | nothing : after = before → Shows i rs before after 0
  | round {k : Nat} {r : Round β} : rs[k]? = some r → i < r.count →
      (∀ o, after o = (r.blocks[i]?.bind (·[o]?)).getD (before o)) →
      Shows i rs before after (k + 1)

section Shows
variable {before after : Nat → β} {k : Nat}

theorem Shows.snoc (h : Shows i rs before after k) (r : Round β) :
    Shows i (rs ++ [r]) before after k := by
  cases h with
  | nothing hsame => exact .nothing hsame
  | round hr hserved hcell =>
    obtain ⟨hk, -⟩ := List.getElem?_eq_some_iff.mp hr
    exact .round ((List.getElem?_append_left hk).trans hr) hserved hcell

/-- A block hides another one of its length. -/
theorem Shows.hidden (h : Shows i rs before after k) (uniform : Uniform i (rs ++ [r]))
    (hserved : i < r.count) {block : List β} (hblock : r.blocks[i]? = some block) :
    Shows i (rs ++ [r]) before (fun o => block.getD o (after o)) (rs.length + 1) := by
  refine .round (by simp) hserved fun o => ?_
  rw [hblock, Option.bind_some, List.getD_eq_getElem?_getD]
  cases hcell : block[o]? with
  | some v => rfl
  | none =>
    cases h with
    | nothing hsame => rw [hsame]
    | @round k r' hr' hserved' hafter =>
      obtain ⟨size, hsize⟩ := uniform
      obtain ⟨block₁, hblock₁, hlength⟩ := hsize r (by simp)
      obtain rfl := Option.some.inj (hblock.symm.trans hblock₁)
      obtain ⟨block', hblock', hlength'⟩ := hsize r' (by simp [List.mem_of_getElem? hr'])
      rw [List.getElem?_eq_none_iff] at hcell
      have hbeyond : block'[o]? = none := List.getElem?_eq_none_iff.mpr (by omega)
      rw [hafter, hblock', Option.bind_some, hbeyond]
      rfl

end Shows

/-- With blocks of one length a channel shows one round on any screen. On a lenient one it is
the last round that served the channel. -/
theorem exists_shown (distinct : channels.Nodup) (hc : channels[i]? = some c) (strict : Bool)
    (period full : Nat) (complete : Complete channels rs) (uniform : Uniform i rs)
    (s : Screen κ β) :
    ∃ k, Shows i rs (s.cell c) ((s.hearAll strict (log channels period full rs)).cell c) k ∧
      (strict = false → k = age i rs) := by
  induction rs using List.reverseRecOn with
  | nil => exact ⟨0, .nothing rfl, fun _ => rfl⟩
  | append_singleton rs r ih =>
    have hlast : r ∈ rs ++ [r] := by simp
    obtain ⟨block, hblock⟩ := complete.block hlast hc
    obtain ⟨k, hshows, hage⟩ := ih (fun r' hr' => complete r' (List.mem_append_left _ hr'))
      (uniform.imp fun size hsize r' hr' => hsize r' (List.mem_append_left _ hr'))
    rw [log_snoc, hearAll_append, age_snoc]
    generalize s.hearAll strict (log channels period full rs) = t at hshows
    by_cases hserved : i < r.count
    · rw [if_pos hserved,
        (agree_hearAll_packets distinct hc (complete r hlast) hserved hblock strict _ t).2,
        Screen.hear]
      split
      · rename_i hdropped
        exact ⟨k, hshows.snoc r, fun hlenient => by simp [hlenient] at hdropped⟩
      · refine ⟨_, ?_, fun _ => rfl⟩
        simpa [Screen.draw] using hshows.hidden uniform hserved hblock
    · rw [if_neg hserved,
        (agree_hearAll_unserved distinct hc (complete r hlast) hserved hblock strict _ t).2]
      exact ⟨k, hshows.snoc r, hage⟩

/-! ### Strict screens -/

/-- The last round that served channel number `i`. -/
def latest (i : Nat) (rs : List (Round β)) : Option (Round β) :=
  (rs.filter fun r => i < r.count).getLast?

/-- Two stamps in a row differ. -/
theorem stamp_succ_ne {period : Nat} (hperiod : 1 < period) (m : Nat) :
    m % period ≠ (m + 1) % period := by
  have hlt : m % period < period := Nat.mod_lt m (by omega)
  rw [Nat.add_mod, Nat.mod_eq_of_lt hperiod]
  by_cases hwrap : m % period + 1 < period
  · rw [Nat.mod_eq_of_lt hwrap]
    omega
  · have hlast : m % period + 1 = period := by omega
    rw [hlast, Nat.mod_self]
    omega

/-- Two full rounds in a row show the second one, whatever the screen had seen before. -/
theorem shown_after_two_full_rounds (distinct : channels.Nodup) (hc : channels[i]? = some c)
    {period : Nat} (hperiod : 1 < period) (m : Nat) {r' : Round β}
    (fits : r.blocks.length = channels.length) (fits' : r'.blocks.length = channels.length)
    (hfull : channels.length ≤ r.count) (hfull' : channels.length ≤ r'.count)
    (strict : Bool) (s : Screen κ β) (o : Nat) :
    ((s.hearAll strict (r.packets channels (m % period))).hearAll strict
        (r'.packets channels ((m + 1) % period))).cell c o =
      (r'.blocks[i]?.bind (·[o]?)).getD
        ((s.hearAll strict (r.packets channels (m % period))).cell c o) := by
  obtain ⟨hi, -⟩ := List.getElem?_eq_some_iff.mp hc
  have hblock : r.blocks[i]? = some r.blocks[i] := List.getElem?_eq_getElem (fits ▸ hi)
  have hblock' : r'.blocks[i]? = some r'.blocks[i] := List.getElem?_eq_getElem (fits' ▸ hi)
  have hseen : (s.hearAll strict (r.packets channels (m % period))).seen c =
      some (m % period) := by
    rw [seen_hearAll, filter_packets distinct hc fits hblock, if_pos (by omega)]
    rfl
  generalize s.hearAll strict (r.packets channels (m % period)) = t at hseen
  have hdraw : t.hear strict ⟨c, (m + 1) % period, r'.blocks[i]⟩ =
      t.draw ⟨c, (m + 1) % period, r'.blocks[i]⟩ := by
    refine if_neg ?_
    rintro ⟨-, hrepeated⟩
    rw [hseen] at hrepeated
    exact stamp_succ_ne hperiod m (Option.some.inj hrepeated)
  rw [(agree_hearAll_packets distinct hc fits' (by omega) hblock' strict _ t).2, hdraw, hblock']
  simp [Screen.draw]

end Log
end Screens
