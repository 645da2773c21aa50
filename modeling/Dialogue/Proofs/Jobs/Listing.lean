import Dialogue.Proofs.Jobs.Refusal
import Mathlib.Data.List.Nodup
import Mathlib.Data.List.Perm.Subperm

/-!
# Nothing is lost or repeated in a listing

A listing asks the history for as many records as there is room in all, before those of jobs that
are still listed are dropped. That is enough. A job takes one place, and of the records that are
asked for it takes away one at most, since no two of them have the same identifier.

* `DistinctIds`, `EachOnce`: identifiers that do not repeat, and each one of a list;
* `firstOfId`, **`mergeRecords_eq`**: merging keeps the first record of each identifier, as long as
  there is room;
* `take_filter_take`, `take_merged`: what is taken before a filter is enough, if the filter drops
  few;
* `Scheduler.newestFirst_perm`, `Scheduler.pairwise_newestFirst`, `Scheduler.pair_newestFirst`: the
  order of the jobs;
* `Ledger.nodup_ids`: no two jobs have the same identifier;
* `Listed`, **`Crew.Course.listed`**: what a listing shows.
-/

namespace Dialogue.Jobs

open Text Machine Time Script

variable {ω β : Type} {c : Setup ω β} {s : Scheduler ω β} {k : Crew ω β} {newId : Nat → Text}
  {history : History} {ds : List Deed} {b : Board} {records rs later : List Record}
  {seen ids : List Json} {r : Record} {room : Nat} {limit : Int}

/-! ## Identifiers -/

/-- No identifier is the same as an earlier one. -/
def DistinctIds (ids : List Json) : Prop := ids.Pairwise fun a b => sameId b a = false

/-- The identifiers are all those of a list, each once. -/
structure EachOnce (ids all : List Json) : Prop where
  distinct : DistinctIds ids
  sound : ids ⊆ all
  complete : ∀ v ∈ all, v ∈ ids ∨ ∃ w ∈ ids, sameId v w = true

/-- Nothing but a text is the same as that text. -/
theorem eq_text_of_sameId {v : Json} {t : Text} (h : sameId v (.text t) = true) : v = .text t := by
  cases v with
  | text u => rw [of_decide_eq_true h]
  | real f => cases hwhole : wholeOf? (.real f) <;> simp [sameId, wholeOf?] at h
  | _ => cases h

theorem sameId_text (t : Text) : sameId (.text t) (.text t) = true := decide_eq_true rfl

theorem distinctIds_text {ts : List Text} (h : ts.Nodup) : DistinctIds (ts.map Json.text) :=
  List.pairwise_map.mpr (h.imp fun hne => decide_eq_false hne.symm)

/-! ## Merging -/

/-- The records whose identifier is not in `seen` and did not come before. -/
def firstOfId (seen : List Json) : List Record → List Record
  | [] => []
  | r :: rest =>
    if seen.any (sameId r.id) then firstOfId seen rest else r :: firstOfId (r.id :: seen) rest

/-- **Merging keeps the first record of each identifier**, as long as there is room. -/
theorem mergeRecords_eq (hids : ∀ r ∈ rs, canIdentify r.id = true) (hroom : 0 < room) :
    mergeRecords room seen rs = .ok ((firstOfId seen rs).take room) := by
  induction rs generalizing room seen with
  | nil => rw [firstOfId, List.take_nil, mergeRecords]
  | cons r rest ih =>
    obtain ⟨hid, hrest⟩ := List.forall_mem_cons.mp hids
    have hbad : (!canIdentify r.id) ≠ true := by simp [hid]
    rw [mergeRecords, if_neg hbad, firstOfId]
    by_cases hseen : seen.any (sameId r.id) = true
    · rw [if_pos hseen, if_pos hseen, ih hrest hroom]
    · rw [if_neg hseen, if_neg hseen]
      by_cases hlast : room ≤ 1
      · obtain rfl : room = 1 := by omega
        rw [if_pos hlast, List.take_succ_cons, List.take_zero]
      · obtain ⟨k, rfl⟩ : ∃ k, room = k + 2 := ⟨room - 2, by omega⟩
        rw [if_neg hlast, ih hrest (by omega), List.take_succ_cons]
        rfl

/-- Of records whose identifiers do not repeat those are kept that come before no other. -/
theorem firstOfId_eq_filter (hdistinct : DistinctIds (rs.map Record.id)) :
    firstOfId seen rs = rs.filter fun r => !seen.any (sameId r.id) := by
  induction rs generalizing seen with
  | nil => rfl
  | cons r rest ih =>
    obtain ⟨hr, hrest⟩ := List.pairwise_cons.mp hdistinct
    by_cases hseen : seen.any (sameId r.id) = true
    · rw [firstOfId, if_pos hseen, ih hrest, List.filter_cons_of_neg (by simp [hseen])]
    · have hnot : ∀ r' ∈ rest, (!(r.id :: seen).any (sameId r'.id)) = !seen.any (sameId r'.id) := by
        intro r' hr'
        rw [List.any_cons, hr r'.id (List.mem_map_of_mem hr'), Bool.false_or]
      rw [firstOfId, if_neg hseen, ih hrest, List.filter_cons_of_pos (by simpa using hseen),
        List.filter_congr hnot]

/-- Records with new identifiers are kept, and count as seen after that. -/
theorem firstOfId_append (hdistinct : DistinctIds (rs.map Record.id))
    (hnew : ∀ r ∈ rs, seen.any (sameId r.id) = false) :
    firstOfId seen (rs ++ later) =
      rs ++ firstOfId ((rs.map Record.id).reverse ++ seen) later := by
  induction rs generalizing seen with
  | nil => rfl
  | cons r rest ih =>
    obtain ⟨hr, hrest⟩ := List.pairwise_cons.mp hdistinct
    obtain ⟨hfirst, hnew⟩ := List.forall_mem_cons.mp hnew
    have hnew' : ∀ r' ∈ rest, (r.id :: seen).any (sameId r'.id) = false := by
      intro r' hr'
      rw [List.any_cons, hr r'.id (List.mem_map_of_mem hr'), hnew r' hr', Bool.or_false]
    rw [List.cons_append, firstOfId, if_neg (by simp [hfirst]), ih hrest hnew', List.map_cons,
      List.reverse_cons, List.append_assoc, List.singleton_append, List.cons_append]

/-- **What is taken before a filter is enough**: if the filter drops `k` entries at most, as many
entries stay, of those that there are, as were taken beyond `k`. -/
theorem take_filter_take {α : Type} {p : α → Bool} {l : List α} {k : Nat} (n : Nat)
    (hdrops : (l.filter fun x => !p x).length ≤ k) :
    ((l.take n).filter p).take (n - k) = (l.filter p).take (n - k) := by
  rcases Nat.le_total l.length n with hall | htaken
  · rw [List.take_of_length_le hall]
  · have hsplit : (l.take n).length =
        ((l.take n).filter p).length + ((l.take n).filter fun x => !p x).length :=
      List.length_eq_length_filter_add p
    have hdropped : ((l.take n).filter fun x => !p x).length ≤ k :=
      Nat.le_trans ((List.take_sublist n l).filter _).length_le hdrops
    rw [List.length_take_of_le htaken] at hsplit
    conv => rhs; rw [← List.take_append_drop n l, List.filter_append]
    rw [List.take_append_of_le_length (by omega)]

/-! ## The jobs of a scheduler -/

theorem noEarlier_trans (a b d : Job) (hab : a.noEarlier b = true) (hbd : b.noEarlier d = true) :
    a.noEarlier d = true :=
  decide_eq_true (Int.le_trans (of_decide_eq_true hbd) (of_decide_eq_true hab))

theorem noEarlier_total (a b : Job) : (a.noEarlier b || b.noEarlier a) = true := by
  simpa [Job.noEarlier] using Int.le_total b.submitted.instant a.submitted.instant

namespace Scheduler

theorem newestFirst_perm (s : Scheduler ω β) : s.newestFirst.Perm s.jobs :=
  List.mergeSort_perm s.jobs Job.noEarlier

/-- A job that was submitted later is shown earlier. -/
theorem pairwise_newestFirst (s : Scheduler ω β) :
    s.newestFirst.Pairwise fun a b => b.submitted.instant ≤ a.submitted.instant :=
  (List.pairwise_mergeSort noEarlier_trans noEarlier_total s.jobs).imp of_decide_eq_true

/-- Of jobs submitted at one time the earlier one stays before the other. -/
theorem pair_newestFirst {a b : Job} (hab : [a, b].Sublist s.jobs)
    (htime : b.submitted.instant ≤ a.submitted.instant) : [a, b].Sublist s.newestFirst :=
  List.pair_sublist_mergeSort noEarlier_trans noEarlier_total (decide_eq_true htime) hab

/-- The records of the jobs as they are, those submitted last first. -/
def live (s : Scheduler ω β) : List Record := s.newestFirst.map Job.record

/-- Whether no job has the identifier of a record. -/
def isPast (s : Scheduler ω β) (r : Record) : Bool := !s.jobs.any fun j => sameId r.id (.text j.id)

theorem isPast_eq_false_iff :
    s.isPast r = false ↔ ∃ j ∈ s.jobs, sameId r.id (.text j.id) = true := by
  rw [isPast, Bool.not_eq_false', List.any_eq_true]

theorem ids_live (s : Scheduler ω β) :
    s.live.map Record.id = (s.newestFirst.map Job.id).map Json.text := by
  rw [live, List.map_map, List.map_map]
  rfl

theorem ids_live_perm (s : Scheduler ω β) :
    (s.live.map Record.id).Perm (s.jobs.map fun j => .text j.id) := by
  rw [ids_live, List.map_map]
  exact s.newestFirst_perm.map _

theorem length_live (s : Scheduler ω β) : s.live.length = s.slots.length := by
  rw [live, List.length_map, length_newestFirst]

/-- A record is past if its identifier is not among those of the jobs, in whatever order. -/
theorem isPast_eq (s : Scheduler ω β) (r : Record) :
    s.isPast r = !((s.live.map Record.id).reverse ++ []).any (sameId r.id) := by
  rw [List.append_nil, List.any_reverse, ids_live, List.any_map, List.any_map, isPast,
    s.newestFirst_perm.any_eq]
  rfl

end Scheduler

/-- The identifiers of the jobs were given one after the other. -/
theorem Ledger.ids_eq (hb : Ledger newId history ds b) (hentries : b.entries = s.board.entries) :
    s.jobs.map Job.id = (List.range s.slots.length).map newId := by
  refine List.ext_getElem (by simp [Scheduler.jobs]) fun n hn _ => ?_
  have hlt : n < s.slots.length := by simpa [Scheduler.jobs] using hn
  have hentry := Scheduler.entry_of_slot (List.getElem?_eq_getElem hlt)
  have hid := hb.ids n _ (hentries ▸ hentry)
  simpa [Scheduler.jobs, Slot.entry] using hid

/-- **No two jobs have the same identifier**, if none is given twice. -/
theorem Ledger.nodup_ids (hb : Ledger newId history ds b) (hentries : b.entries = s.board.entries)
    (hids : Function.Injective newId) : (s.jobs.map Job.id).Nodup := by
  rw [hb.ids_eq hentries]
  exact List.Nodup.map hids List.nodup_range

theorem distinctIds_live (hnodup : (s.jobs.map Job.id).Nodup) :
    DistinctIds (s.live.map Record.id) := by
  rw [s.ids_live]
  exact distinctIds_text ((s.newestFirst_perm.map Job.id).nodup_iff.mpr hnodup)

/-- **The jobs take away no more records than there are jobs**: a record that is dropped has the
identifier of a job, and no two records have the same. -/
theorem length_dropped_le (hdistinct : DistinctIds (records.map Record.id)) :
    (records.filter fun r => !s.isPast r).length ≤ s.slots.length := by
  have htext : ∀ r ∈ records.filter fun r => !s.isPast r, ∃ j ∈ s.jobs, r.id = .text j.id := by
    intro r hr
    have hdropped := (Bool.not_eq_true' _).mp (List.mem_filter.mp hr).2
    obtain ⟨j, hj, hsame⟩ := Scheduler.isPast_eq_false_iff.mp hdropped
    exact ⟨j, hj, eq_text_of_sameId hsame⟩
  have hnodup : ((records.filter fun r => !s.isPast r).map Record.id).Nodup := by
    have hids : DistinctIds ((records.filter fun r => !s.isPast r).map Record.id) :=
      hdistinct.sublist (List.filter_sublist.map _)
    refine hids.imp_of_mem fun {a b} ha _ hdiffers heq => ?_
    obtain ⟨r, hr, rfl⟩ := List.mem_map.mp ha
    obtain ⟨j, -, hid⟩ := htext r hr
    rw [← heq, hid, sameId_text] at hdiffers
    cases hdiffers
  have hsubset : (records.filter fun r => !s.isPast r).map Record.id ⊆
      s.jobs.map fun j => .text j.id := by
    intro v hv
    obtain ⟨r, hr, rfl⟩ := List.mem_map.mp hv
    obtain ⟨j, hj, hid⟩ := htext r hr
    exact hid ▸ List.mem_map_of_mem hj
  have hle := (List.subperm_of_subset hnodup hsubset).length_le
  rwa [List.length_map, List.length_map, Scheduler.jobs, List.length_map] at hle

/-! ## Listings -/

/-- All that a listing may show: the jobs as they are, and after them the records of the history
that no job has the identifier of. -/
def Scheduler.merged (s : Scheduler ω β) (records : List Record) : List Record :=
  s.live ++ records.filter s.isPast

/-- **Merging drops the records that a job has the identifier of**, as long as there is room. -/
theorem mergeRecords_live (hnodup : (s.jobs.map Job.id).Nodup)
    (hids : ∀ r ∈ records, canIdentify r.id = true)
    (hdistinct : DistinctIds (records.map Record.id)) (hroom : 0 < room) :
    mergeRecords room [] (s.live ++ records) = .ok ((s.merged records).take room) := by
  have hall : ∀ r ∈ s.live ++ records, canIdentify r.id = true := by
    intro r hr
    rcases List.mem_append.mp hr with hr | hr
    · obtain ⟨j, -, rfl⟩ := List.mem_map.mp hr
      rfl
    · exact hids r hr
  have hfirst : firstOfId [] (s.live ++ records) = s.merged records := by
    rw [firstOfId_append (distinctIds_live hnodup) (fun _ _ => rfl), firstOfId_eq_filter hdistinct]
    exact congrArg _ (List.filter_congr fun r _ => (s.isPast_eq r).symm)
  rw [mergeRecords_eq hall hroom, hfirst]

/-- As many records as there is room in all are enough. -/
theorem take_merged (hdistinct : DistinctIds (records.map Record.id)) (n : Nat) :
    (s.merged (records.take n)).take n = (s.merged records).take n := by
  rw [Scheduler.merged, Scheduler.merged, List.take_append, List.take_append, s.length_live,
    take_filter_take n (length_dropped_le hdistinct)]

/-- **A listing shows the first of the jobs and the records that are past.** -/
theorem recent_eq_take (hnodup : (s.jobs.map Job.id).Nodup)
    (hrecords : s.history.records = .ok records) (hids : ∀ r ∈ records, canIdentify r.id = true)
    (hdistinct : DistinctIds (records.map Record.id)) (hlimit : 0 ≤ limit) :
    s.recent limit = .ok ((s.merged records).take limit.toNat) := by
  obtain ⟨n, rfl⟩ := Int.eq_ofNat_of_zero_le hlimit
  have htake {α : Type} (l : List α) : takeLimit (n : Int) l = l.take n := by
    rw [takeLimit, if_neg (by omega), Int.toNat_natCast]
  rw [Int.toNat_natCast]
  by_cases hfull : n ≤ s.slots.length
  · rw [Scheduler.recent_of_le (by omega), htake, Scheduler.merged,
      List.take_append_of_le_length (by rwa [s.length_live])]
    rfl
  · have hroom : ¬ (n : Int) ≤ (s.newestFirst.map Job.record).length := by
      rw [List.length_map, s.length_newestFirst]
      omega
    have hasked : s.history.recent n = .ok (records.take n) := by
      rw [History.recent, hrecords]
      exact congrArg Except.ok (htake records)
    have hmerge : mergeRecords n [] (s.live ++ records.take n) =
        .ok ((s.merged (records.take n)).take n) :=
      mergeRecords_live hnodup (fun r hr => hids r (List.mem_of_mem_take hr))
        (hdistinct.sublist ((List.take_sublist n records).map _)) (by omega)
    unfold Scheduler.recent
    rw [if_neg hroom, hasked]
    change mergeRecords (n : Int).toNat [] (s.live ++ records.take n) = _
    rw [Int.toNat_natCast, hmerge, take_merged hdistinct]

theorem distinctIds_merged (hnodup : (s.jobs.map Job.id).Nodup)
    (hdistinct : DistinctIds (records.map Record.id)) :
    DistinctIds ((s.merged records).map Record.id) := by
  rw [Scheduler.merged, List.map_append]
  refine List.pairwise_append.mpr ⟨distinctIds_live hnodup,
    hdistinct.sublist (List.filter_sublist.map _), fun v hv w hw => ?_⟩
  obtain ⟨r, hr, rfl⟩ := List.mem_map.mp hw
  have hpast := (List.mem_filter.mp hr).2
  rw [s.isPast_eq, List.append_nil, List.any_reverse, Bool.not_eq_true'] at hpast
  exact Bool.eq_false_iff.mpr (List.any_eq_false.mp hpast v hv)

/-- A listing without a limit has each identifier of a job or a record once. -/
theorem eachOnce_merged (hnodup : (s.jobs.map Job.id).Nodup)
    (hdistinct : DistinctIds (records.map Record.id)) :
    EachOnce ((s.merged records).map Record.id)
      (s.jobs.map (fun j => .text j.id) ++ records.map Record.id) where
  distinct := distinctIds_merged hnodup hdistinct
  sound := by
    rw [Scheduler.merged, List.map_append]
    exact List.append_subset.mpr ⟨List.subset_append_of_subset_left _ s.ids_live_perm.subset,
      List.subset_append_of_subset_right _ (List.filter_sublist.map _).subset⟩
  complete := by
    intro v hv
    rw [Scheduler.merged, List.map_append]
    rcases List.mem_append.mp hv with hv | hv
    · exact .inl (List.mem_append_left _ (s.ids_live_perm.mem_iff.mpr hv))
    · obtain ⟨r, hr, rfl⟩ := List.mem_map.mp hv
      cases hpast : s.isPast r with
      | true =>
        exact .inl (List.mem_append_right _ (List.mem_map_of_mem (List.mem_filter.mpr ⟨hr, hpast⟩)))
      | false =>
        obtain ⟨j, hj, hsame⟩ := Scheduler.isPast_eq_false_iff.mp hpast
        have hlive : Json.text j.id ∈ s.live.map Record.id :=
          s.ids_live_perm.mem_iff.mpr (List.mem_map_of_mem hj)
        exact .inr ⟨_, List.mem_append_left _ hlive, hsame⟩

/-- What a listing of a scheduler shows, with the records of its history, up to a number. -/
structure Listed (s : Scheduler ω β) (records : List Record) (limit : Int) (shown : List Record) :
    Prop where
  /-- It is the first of the jobs as they are, and then of the records that no job has the
  identifier of. -/
  exact : shown = (s.newestFirst.map Job.record ++ records.filter s.isPast).take limit.toNat
  /-- The jobs are shown by the time of their submission, the latest first. -/
  jobs_perm : s.newestFirst.Perm s.jobs
  newest_first : s.newestFirst.Pairwise fun a b => b.submitted.instant ≤ a.submitted.instant
  ties : ∀ a b, [a, b].Sublist s.jobs → b.submitted.instant = a.submitted.instant →
    [a, b].Sublist s.newestFirst
  /-- Nothing is shown twice. -/
  distinct : DistinctIds (shown.map Record.id)
  /-- What has the identifier of a job is that job as it is. -/
  live : ∀ r ∈ shown, ∀ j ∈ s.jobs, sameId r.id (.text j.id) = true → r = j.record
  /-- It is as long as it can be. -/
  length_eq : ∃ ids, EachOnce ids (s.jobs.map (fun j => .text j.id) ++ records.map Record.id) ∧
    shown.length = min limit.toNat ids.length

/-- **Listings lose and repeat nothing.** If no identifier is given twice, every state that a crew
gets to lists its jobs and the records of any history whose identifiers do not repeat. -/
theorem Crew.Course.listed {game : β} {stored : History} (hids : Function.Injective c.newId)
    (hk : Crew.Course (Step c) (.fresh history game) ds k) (hrecords : stored.records = .ok records)
    (hstored : ∀ r ∈ records, canIdentify r.id = true)
    (hdistinct : DistinctIds (records.map Record.id)) (hlimit : 0 ≤ limit) :
    ∃ shown, Scheduler.recent limit { k.shared with history := stored } = .ok shown ∧
      Listed k.shared records limit shown := by
  have hnodup : (k.shared.jobs.map Job.id).Nodup := hk.ledger.nodup_ids rfl hids
  refine ⟨_, recent_eq_take hnodup hrecords hstored hdistinct hlimit, ?_⟩
  exact {
    exact := rfl
    jobs_perm := k.shared.newestFirst_perm
    newest_first := k.shared.pairwise_newestFirst
    ties := fun a b hab htime => k.shared.pair_newestFirst hab (Int.le_of_eq htime)
    distinct := (distinctIds_merged hnodup hdistinct).sublist ((List.take_sublist _ _).map _)
    live := by
      intro r hr j hj hsame
      rcases List.mem_append.mp (List.mem_of_mem_take hr) with hr | hr
      · obtain ⟨j', hj', rfl⟩ := List.mem_map.mp hr
        have hid : j'.id = j.id := of_decide_eq_true hsame
        rw [List.inj_on_of_nodup_map hnodup (k.shared.newestFirst_perm.mem_iff.mp hj') hj hid]
      · have hnot : k.shared.isPast r = false := Scheduler.isPast_eq_false_iff.mpr ⟨j, hj, hsame⟩
        cases hnot.symm.trans (List.mem_filter.mp hr).2
    length_eq := by
      refine ⟨_, eachOnce_merged hnodup hdistinct, ?_⟩
      rw [List.length_take, List.length_map]
      rfl }

/-- The record of a job that has ended. -/
def endedRecord (id : Text) : Record where
  id := .text id
  name := .text []
  submitted := Timestamp.ofSeconds 0
  status := .ended .completed

/-- A history that has an earlier record of a job and one of another, with room for both jobs and
one record. -/
theorem Crew.Course.listed_overlap : ∃ (ds : List Deed) (k : Crew Unit Unit) (shown : List Record),
    Crew.Course (Step (.plain Host.unanswered 100)) (.fresh (.memory 9 []) ()) ds k ∧
      k.shared.jobs.map Job.id = [[], ['a']] ∧
      Scheduler.recent 3
        { k.shared with history := .memory 9 [endedRecord ['a'], endedRecord ['b']] } = .ok shown ∧
      Listed k.shared [endedRecord ['a'], endedRecord ['b']] 3 shown ∧ shown.length = 3 := by
  have hids : Function.Injective (Setup.plain Host.unanswered 100).newId := fun m n h => by
    simpa [Setup.plain] using congrArg List.length h
  have hk : Crew.Course (Step (.plain Host.unanswered 100)) (.fresh (.memory 9 []) ()) _ _ :=
    .tail (.tail .refl (.submit _ [] () none)) (.submit _ [] () none)
  have hstored : (History.memory 9 [endedRecord ['a'], endedRecord ['b']]).records = .ok _ := rfl
  have hdistinct : DistinctIds ([['a'], ['b']].map Json.text) := distinctIds_text (by decide)
  obtain ⟨shown, hshown, hlisted⟩ :=
    Crew.Course.listed hids hk hstored (by decide) hdistinct (by decide : (0 : Int) ≤ 3)
  have hlength : shown.length = 3 := by
    rw [hlisted.exact, List.length_take, List.length_append, List.length_map,
      Scheduler.length_newestFirst]
    rfl
  exact ⟨_, _, shown, hk, rfl, hshown, hlisted, hlength⟩

end Dialogue.Jobs
