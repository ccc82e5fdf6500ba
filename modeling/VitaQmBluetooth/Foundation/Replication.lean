import VitaQmBluetooth.Foundation.Resync

namespace VitaQmBluetooth.Foundation

section News

variable {V : Type*} {v b : V} {news : List (Update V)}

def Tells (v : V) (news : List (Update V)) : Prop :=
  ∃ older u newer, news = older ++ u :: newer ∧ (u = .set v ∨ u = .resync) ∧ ∀ w ∈ newer, w = .skip

def Silent (news : List (Update V)) : Prop := ∀ u ∈ news, u = .skip

theorem Silent.replay (h : Silent news) (truth b : V) : replay truth b news = b := by
  induction news with
  | nil => rfl
  | cons u news ih =>
      rw [replay_cons, h u (List.mem_cons_self ..)]
      exact ih fun w hw => h w (List.mem_cons_of_mem _ hw)

theorem Tells.replay (h : Tells v news) (b : V) : replay v b news = v := by
  obtain ⟨older, u, newer, rfl, hu, hnewer⟩ := h
  have hsilent : Silent newer := hnewer
  rw [replay_append, replay_cons, hsilent.replay]
  rcases hu with rfl | rfl <;> rfl

end News

structure Replication (I : Type*) (V : I → Type*) (M : Type*) where
  truth : (i : I) → V i
  onWay : List M
  known : (i : I) → V i
  Unread : I → Prop

namespace Replication

variable {I : Type*} {V : I → Type*} {M : Type*}

section

variable (about : M → (i : I) → Update (V i)) (Settled : (i : I) → V i → Prop)

structure InStep (r : Replication I V M) : Prop where
  leads : ∀ i, Settled i (r.truth i) →
    replay (r.truth i) (r.known i) (r.onWay.map (about · i)) = r.truth i
  unread : ∀ i, r.Unread i → r.known i = r.truth i

inductive Move (r : Replication I V M) : Replication I V M → Prop
  | happen {truth known : (i : I) → V i} {news : List M}
      (hunread : ∀ i, r.Unread i → known i = truth i)
      (hnews : ∀ i, Settled i (truth i) → Tells (truth i) (news.map (about · i)) ∨
        truth i = r.truth i ∧ Silent (news.map (about · i)) ∧
          (¬ r.Unread i → known i = r.known i)) :
      Move r ⟨truth, r.onWay ++ news, known, r.Unread⟩
  | lose {front lost back : List M} {notice : M} (hsplit : r.onWay = front ++ lost ++ back)
      (hnotice : ∀ i, about notice i = .resync) :
      Move r { r with onWay := front ++ notice :: back }
  | deliver {m : M} {rest : List M} {known : (i : I) → V i} (hnext : r.onWay = m :: rest)
      (htold : ∀ i, about m i = .set (known i) ∨ about m i = .skip ∧ known i = r.known i)
      (hread : ∀ i, ¬ r.Unread i) :
      Move r { r with onWay := rest, known := known }
  | restart {lost rest : List M} (hsplit : r.onWay = lost ++ rest) :
      Move r ⟨r.truth, rest, r.truth, fun _ => True⟩
  | read {Unread : I → Prop} (hfewer : ∀ i, Unread i → r.Unread i) :
      Move r { r with Unread := Unread }

end

variable {about : M → (i : I) → Update (V i)} {Settled : (i : I) → V i → Prop}
  {r r' : Replication I V M}

theorem InStep.suffix (h : InStep about Settled r) {lost rest : List M}
    (hsplit : r.onWay = lost ++ rest) {i : I} (hsettled : Settled i (r.truth i)) :
    replay (r.truth i) (r.truth i) (rest.map (about · i)) = r.truth i := by
  have hleads := h.leads i hsettled
  rw [hsplit, List.map_append] at hleads
  exact replay_suffix hleads

theorem Move.inStep (hmove : Move about Settled r r') (h : InStep about Settled r) :
    InStep about Settled r' := by
  cases hmove with
  | @happen truth known news hunread hnews =>
      refine ⟨fun i hsettled => ?_, hunread⟩
      simp only [List.map_append, replay_append]
      rcases hnews i hsettled with htells | ⟨hsame, hsilent, hread⟩
      · exact htells.replay _
      · have hknown : known i = r.known i := by
          by_cases hun : r.Unread i
          · rw [hunread i hun, h.unread i hun, hsame]
          · exact hread hun
        simp only [hsilent.replay, hknown, hsame]
        exact h.leads i (hsame ▸ hsettled)
  | lose hsplit hnotice =>
      refine ⟨fun i hsettled => ?_, h.unread⟩
      simp only [List.map_append, List.map_cons, hnotice, replay_resync]
      exact h.suffix hsplit hsettled
  | @deliver m rest known hnext htold hread =>
      refine ⟨fun i hsettled => ?_, fun i hun => absurd hun (hread i)⟩
      have hleads := h.leads i hsettled
      rw [hnext, List.map_cons, replay_cons] at hleads
      rcases htold i with hset | ⟨hskip, hsame⟩
      · rw [hset] at hleads
        exact hleads
      · rw [hskip, Update.next, ← hsame] at hleads
        exact hleads
  | restart hsplit => exact ⟨fun i => h.suffix hsplit, fun _ _ => rfl⟩
  | read hfewer => exact ⟨h.leads, fun i hun => h.unread i (hfewer i hun)⟩

theorem exists_happen (r : Replication I V M) {truth : (i : I) → V i} {news : List M}
    (hnews : ∀ i, Settled i (truth i) → Tells (truth i) (news.map (about · i)) ∨
      truth i = r.truth i ∧ Silent (news.map (about · i))) :
    ∃ known : (i : I) → V i, (∀ i, ¬ r.Unread i → known i = r.known i) ∧
      Move about Settled r ⟨truth, r.onWay ++ news, known, r.Unread⟩ := by
  classical
  have hread (i : I) (hno : ¬ r.Unread i) :
      (if r.Unread i then truth i else r.known i) = r.known i := if_neg hno
  refine ⟨fun i => if r.Unread i then truth i else r.known i, hread,
    .happen (fun i hun => if_pos hun) fun i hsettled => ?_⟩
  exact (hnews i hsettled).imp_right fun ⟨hsame, hsilent⟩ => ⟨hsame, hsilent, hread i⟩

theorem InStep.agrees (h : InStep about Settled r) (hnone : r.onWay = []) {i : I}
    (hsettled : Settled i (r.truth i)) : r.known i = r.truth i := by
  have hleads := h.leads i hsettled
  rw [hnone] at hleads
  exact hleads

end Replication

end VitaQmBluetooth.Foundation
