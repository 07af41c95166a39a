import Matchmaker.Proofs.Graphs
import Matchmaker.Proofs.Members
import Matchmaker.Proofs.Saved
import Matchmaker.Seed.Run

/-!
# Fixtures

Fixtures bypass the service, but what is drawn for new users is a store of its own that the service
might have written: every user has one complete profile, which is accepted again for what it is, no
pair has two connections, no dismissal is made twice, and all of them are between users. Behind the
rows of another such store it stays one as long as no address is in use.

* `Store.IsKept`, `Store.append`, **`IsKept.append`**: one store behind another;
* `Seed.email_injective`, `Seed.isLawful_withUsers` and the like: what may be added, table by table;
* `Seed.IsSeeded`, **`isSeeded_of_isLawful`**: what is seeded, told by what is drawn.
-/

namespace Matchmaker

namespace Store

variable {s s' t : Store} {user : Int}

/-! ## One store behind another -/

/-- A store that the service might have written: it keeps the constraints, no pair has two
connections, references lead to users, and all profiles are complete and accepted again for what
they are. -/
structure IsKept (s : Store) : Prop where
  clean : s.IsClean
  linked : s.IsLinked
  saved : s.IsSaved

theorem isKept_empty : empty.IsKept where
  clean := { isLawful_empty with onePerPair := fun _ _ => Nat.zero_le 1 }
  linked := ⟨by simp [empty], by simp [empty], by simp [empty]⟩
  saved := isSaved_of_noRows rfl rfl rfl

/-- The rows of one store behind those of another. -/
def append (s t : Store) : Store :=
  ⟨s.users ++ t.users, s.profiles ++ t.profiles, s.connections ++ t.connections,
    s.dismissals ++ t.dismissals⟩

theorem IsLawful.of_append (h : (s.append t).IsLawful) : t.IsLawful where
  emails u hu := h.emails u (List.mem_append_right _ hu)
  userIds := (List.map_append ▸ h.userIds).of_append_right
  userEmails := (List.map_append ▸ h.userEmails).of_append_right
  profiles p hp := h.profiles p (List.mem_append_right _ hp)
  profileUsers := (List.map_append ▸ h.profileUsers).of_append_right
  ends c hc := h.ends c (List.mem_append_right _ hc)
  ids := (List.map_append ▸ h.ids).of_append_right
  directions := (List.map_append ▸ h.directions).of_append_right
  dismissals d hd := h.dismissals d (List.mem_append_right _ hd)
  ledger := h.ledger.of_append_right

theorem IsLawful.isComplete_of_subset (h : s'.IsLawful) (hsub : s.profiles ⊆ s'.profiles)
    (hc : s.isComplete user = true) : s'.isComplete user = true := by
  obtain ⟨p, hp, hcomplete⟩ := isComplete_iff.1 hc
  obtain ⟨hmem, rfl⟩ := mem_of_profile? hp
  exact isComplete_iff.2 ⟨p, h.profile?_eq_some (hsub hmem), hcomplete⟩

theorem hasUser_iff : s.HasUser user ↔ user ∈ s.users.map User.id :=
  List.mem_map.symm

theorem HasUser.append_left (h : s.HasUser user) (t : Store) : (s.append t).HasUser user := by
  obtain ⟨u, hu, rfl⟩ := h
  exact ⟨u, List.mem_append_left _ hu, rfl⟩

theorem HasUser.append_right (h : t.HasUser user) (s : Store) : (s.append t).HasUser user := by
  obtain ⟨u, hu, rfl⟩ := h
  exact ⟨u, List.mem_append_right _ hu, rfl⟩

theorem IsLinked.append (hs : s.IsLinked) (ht : t.IsLinked) : (s.append t).IsLinked where
  profiles := List.forall_mem_append.2
    ⟨fun p hp => (hs.profiles p hp).append_left t, fun p hp => (ht.profiles p hp).append_right s⟩
  connections := List.forall_mem_append.2
    ⟨fun c hc => (hs.connections c hc).imp (·.append_left t) (·.append_left t),
      fun c hc => (ht.connections c hc).imp (·.append_right s) (·.append_right s)⟩
  dismissals := List.forall_mem_append.2
    ⟨fun d hd => (hs.dismissals d hd).imp (·.append_left t) (·.append_left t),
      fun d hd => (ht.dismissals d hd).imp (·.append_right s) (·.append_right s)⟩

theorem IsSaved.append (hs : s.IsSaved) (ht : t.IsSaved) (h : (s.append t).IsLawful) :
    (s.append t).IsSaved := by
  have hold : ∀ {user}, s.isComplete user = true → (s.append t).isComplete user = true :=
    h.isComplete_of_subset (List.subset_append_left _ _)
  have hnew : ∀ {user}, t.isComplete user = true → (s.append t).isComplete user = true :=
    h.isComplete_of_subset (List.subset_append_right _ _)
  exact {
    complete := List.forall_mem_append.2 ⟨hs.complete, ht.complete⟩
    fixed := List.forall_mem_append.2 ⟨hs.fixed, ht.fixed⟩
    weights := List.forall_mem_append.2 ⟨hs.weights, ht.weights⟩
    anchored := List.forall_mem_append.2
      ⟨fun c hc => (hs.anchored c hc).imp hold hold, fun c hc => (ht.anchored c hc).imp hnew hnew⟩
    ledger := List.forall_mem_append.2
      ⟨fun d hd => hold (hs.ledger d hd), fun d hd => hnew (ht.ledger d hd)⟩ }

theorem not_mem_ids {us : List User} (h : ((s.users ++ us).map User.id).Nodup)
    (hs : s.HasUser user) : user ∉ us.map User.id := by
  rw [List.map_append] at h
  exact fun hmem => (List.nodup_append.1 h).2.2 user (hasUser_iff.1 hs) user hmem rfl

/-- **One store behind another is kept as both are**, where it keeps the constraints: no pair lies
in both. -/
theorem IsKept.append (hs : s.IsKept) (ht : t.IsKept) (h : (s.append t).IsLawful) :
    (s.append t).IsKept where
  clean := by
    refine { h with onePerPair := nodup_pairs_iff.1 ?_ }
    have hold : (s.connections.map Connection.pair).Nodup := nodup_pairs_iff.2 hs.clean.onePerPair
    have hnew : (t.connections.map Connection.pair).Nodup := nodup_pairs_iff.2 ht.clean.onePerPair
    show ((s.connections ++ t.connections).map Connection.pair).Nodup
    rw [List.map_append, List.nodup_append]
    refine ⟨hold, hnew, List.forall_mem_map.2 fun c hc => List.forall_mem_map.2 fun d hd he => ?_⟩
    have hnone := not_mem_ids h.userIds (hs.linked.connections c hc).1
    have hends := ht.linked.connections d hd
    rcases Lock.key_eq_iff.1 he with ⟨hr, -⟩ | ⟨hr, -⟩
    · exact hnone (hr ▸ hasUser_iff.1 hends.1)
    · exact hnone (hr ▸ hasUser_iff.1 hends.2)
  linked := hs.linked.append ht.linked
  saved := hs.saved.append ht.saved h

end Store

namespace Seed

/-! ## New users -/

theorem fiveDigits_injective : Function.Injective fiveDigits := by
  intro i j h
  have hvalue : ∀ n, Nat.ofDigitChars 10 (fiveDigits n).toList 0 = n := by
    intro n
    rw [fiveDigits, String.toList_ofList, Nat.ofDigitChars_append,
      Nat.ofDigitChars_replicate_zero, Nat.mul_zero, Nat.ofDigitChars_ten_toDigits]
  rw [← hvalue i, h, hvalue j]

theorem email_injective (seed : Int) : Function.Injective (email seed) := by
  intro i j h
  have htexts := congrArg String.toList h
  simp only [email, String.toList_append, List.append_assoc, List.append_cancel_left_eq] at htexts
  exact fiveDigits_injective (String.toList_inj.1 (List.append_cancel_right htexts))

theorem email_ne_empty (seed : Int) (i : Nat) : (email seed i).isEmpty = false := by
  rw [← Bool.not_eq_true, String.isEmpty_iff]
  intro h
  have htext := congrArg String.toList h
  simp [email] at htext

section NewUsers

variable {s : Store} {seed first : Int} {n : Nat}

theorem map_id_newUsers :
    (newUsers seed first n).map User.id = (List.range n).map fun (i : Nat) => first + i := by
  simp [newUsers]

theorem map_email_newUsers :
    (newUsers seed first n).map User.email = (List.range n).map (email seed) := by
  simp [newUsers]

theorem nodup_ids_newUsers : ((newUsers seed first n).map User.id).Nodup := by
  rw [map_id_newUsers]
  exact List.nodup_range.map fun i j h => by simpa using h

/-- The addresses of new users are not in use. -/
def IsUnused (seed : Int) (n : Nat) (s : Store) : Prop :=
  ∀ u ∈ s.users, ∀ i < n, u.email ≠ email seed i

theorem isLawful_withUsers (hs : s.IsLawful) (hunused : IsUnused seed n s) :
    Store.IsLawful { s with
      users := s.users ++ newUsers seed (Store.nextId (s.users.map User.id)) n } := by
  refine { hs with emails := ?_, userIds := ?_, userEmails := ?_ }
  · refine List.forall_mem_append.2 ⟨hs.emails, ?_⟩
    simp only [newUsers, List.forall_mem_map]
    exact fun i _ => email_ne_empty seed i
  · show (List.map User.id (s.users ++ newUsers seed _ n)).Nodup
    rw [List.map_append, List.nodup_append]
    refine ⟨hs.userIds, nodup_ids_newUsers, fun a ha b hb => ?_⟩
    rw [map_id_newUsers] at hb
    obtain ⟨i, -, rfl⟩ := List.mem_map.1 hb
    have hlt : a < Store.nextId (s.users.map User.id) := Store.lt_nextId ha
    omega
  · show (List.map User.email (s.users ++ newUsers seed _ n)).Nodup
    rw [List.map_append, List.nodup_append, map_email_newUsers]
    refine ⟨hs.userEmails, List.nodup_range.map (email_injective seed), ?_⟩
    refine List.forall_mem_map.2 fun u hu => List.forall_mem_map.2 fun i hi => ?_
    exact hunused u hu i (List.mem_range.1 hi)

end NewUsers

/-! ## Their rows -/

section Rows

variable {s : Store} {us : List User} {ps : List Profile} {cs : List Connection}
  {ds : List Dismissal} {links : List Store.Link}

theorem isLawful_withProfiles (h : Store.IsLawful { s with users := s.users ++ us })
    (hs : s.IsLinked) (husers : ps.map Profile.user = us.map User.id)
    (hadmits : ∀ p ∈ ps, Store.admitsProfile p = true) :
    Store.IsLawful { s with users := s.users ++ us, profiles := s.profiles ++ ps } := by
  refine { h with profiles := List.forall_mem_append.2 ⟨h.profiles, hadmits⟩, profileUsers := ?_ }
  have hids := h.userIds
  show (List.map Profile.user (s.profiles ++ ps)).Nodup
  rw [List.map_append, List.nodup_append, husers]
  refine ⟨h.profileUsers, (List.map_append ▸ hids).of_append_right, ?_⟩
  refine List.forall_mem_map.2 fun p hp i hi he => ?_
  exact Store.not_mem_ids hids (hs.profiles p hp) (he ▸ hi)

theorem exists_addAll_links (now : Instant)
    (h : Store.IsLawful { s with users := s.users ++ us, profiles := s.profiles ++ ps })
    (hs : s.IsLinked) (hgraph : IsGraph (us.map User.id) links) :
    ∃ cs, Store.addAll (Store.addLink now) links
        { s with users := s.users ++ us, profiles := s.profiles ++ ps } =
          .ok ⟨s.users ++ us, s.profiles ++ ps, s.connections ++ cs, s.dismissals⟩ ∧
      cs.map Store.ends = links.map Store.Link.ends ∧
      Store.IsLawful ⟨s.users ++ us, s.profiles ++ ps, s.connections ++ cs, s.dismissals⟩ := by
  have hnodup : (links.map Store.Link.ends).Nodup := by
    refine List.Nodup.of_map (fun e : Int × Int => Lock.key e.1 e.2) ?_
    rw [List.map_map]
    exact hgraph.pairs
  have hnew : (s.connections.map Store.ends ++ links.map Store.Link.ends).Nodup := by
    refine List.nodup_append.2 ⟨h.directions, hnodup, ?_⟩
    refine List.forall_mem_map.2 fun c hc => List.forall_mem_map.2 fun l hl he => ?_
    have hr : c.requester = l.requester := congrArg Prod.fst he
    exact Store.not_mem_ids h.userIds (hs.connections c hc).1 (hr ▸ hgraph.requester l hl)
  have hlawful := Store.isLawful_foldl_withLink now h hgraph.ends hnew
  obtain ⟨cs, hcs, hends⟩ := Store.exists_foldl_withLink now
    { s with users := s.users ++ us, profiles := s.profiles ++ ps } links
  have hadd := Store.adds_link.addAll_of_isLawful hlawful
  rw [hcs] at hadd hlawful
  exact ⟨cs, hadd, hends, hlawful⟩

theorem isLawful_withDismissals
    (h : Store.IsLawful ⟨s.users ++ us, s.profiles ++ ps, s.connections ++ cs, s.dismissals⟩)
    (hs : s.IsLinked) (hnodup : ds.Nodup)
    (hends : ∀ d ∈ ds, d.user ∈ us.map User.id ∧ d.dismissed ∈ us.map User.id ∧
      d.user ≠ d.dismissed) :
    (s.append ⟨us, ps, cs, ds⟩).IsLawful := by
  refine { h with
    dismissals := List.forall_mem_append.2 ⟨h.dismissals, fun d hd => (hends d hd).2.2⟩
    ledger := List.nodup_append.2 ⟨h.ledger, hnodup, ?_⟩ }
  rintro d hd e he rfl
  exact Store.not_mem_ids h.userIds (hs.dismissals d hd).1 (hends d he).1

end Rows

/-! ## What is seeded -/

/-- A store with so many users, who have one profile each, that the service might have written. -/
structure IsSeeded (n : Nat) (s : Store) : Prop extends s.IsKept where
  users : s.users.length = n
  profiles : s.profiles.map Profile.user = s.users.map User.id

section Seeded

variable {Lat Lon : Float → Prop} {s : Store} {links : List Store.Link}

theorem IsDrawn.complete {p : Profile} (h : IsDrawn Lat Lon p) : p.complete = true := by
  obtain ⟨f, hp, -⟩ := h.made
  exact hp.complete

theorem IsDrawn.exists_facets {p : Profile} (h : IsDrawn Lat Lon p)
    (hp : Store.admitsProfile p = true) : ∃ f : Facets, p.IsOf f ∧ f.IsNormal := by
  obtain ⟨f, hmade, hnormal⟩ := h.made
  obtain ⟨lat, lon, hlat, hlon, -⟩ := h.place
  refine ⟨f, hmade, hnormal ?_⟩
  unfold Store.admitsProfile at hp
  simp only [hlat, hlon, Option.map_some, Option.getD_some, Bool.and_eq_true] at hp
  refine ⟨some (.real lat, .real lon), hlat, hlon, ?_⟩
  rintro x ⟨⟩
  exact ⟨hp.1.1.2, hp.1.2⟩

/-- **What is seeded, told by what is drawn.** A lawful store of users, of a drawn profile for each
of them and of a graph and dismissals between them is one that the service might have written. -/
theorem isSeeded_of_isLawful (hs : s.IsLawful)
    (husers : s.profiles.map Profile.user = s.users.map User.id)
    (hdrawn : ∀ p ∈ s.profiles, IsDrawn Lat Lon p)
    (hends : s.connections.map Store.ends = links.map Store.Link.ends)
    (hgraph : IsGraph (s.users.map User.id) links)
    (hdismissals : ∀ d ∈ s.dismissals, s.HasUser d.user ∧ s.HasUser d.dismissed) :
    IsSeeded s.users.length s := by
  have hpairs : s.connections.map Connection.pair = links.map Store.Link.pair := by
    have h := congrArg (List.map fun e : Int × Int => Lock.key e.1 e.2) hends
    rw [List.map_map, List.map_map] at h
    exact h
  have hlinked : s.IsLinked := by
    refine ⟨fun p hp => Store.hasUser_iff.2 (husers ▸ List.mem_map_of_mem hp), fun c hc => ?_,
      hdismissals⟩
    have hmem : Store.ends c ∈ links.map Store.Link.ends := hends ▸ List.mem_map_of_mem hc
    obtain ⟨l, hl, hlc⟩ := List.mem_map.1 hmem
    obtain ⟨hr, ht⟩ := Prod.mk.inj hlc
    exact ⟨Store.hasUser_iff.2 (hr ▸ hgraph.requester l hl),
      Store.hasUser_iff.2 (ht ▸ hgraph.target l hl)⟩
  have hcomplete : ∀ {id}, s.HasUser id → s.isComplete id = true := by
    intro id hid
    rw [Store.hasUser_iff, ← husers, List.mem_map] at hid
    obtain ⟨p, hp, rfl⟩ := hid
    exact Store.isComplete_iff.2 ⟨p, hs.profile?_eq_some hp, (hdrawn p hp).complete⟩
  have hmade : ∀ p ∈ s.profiles, ∃ f : Facets, p.IsOf f ∧ f.IsNormal :=
    fun p hp => (hdrawn p hp).exists_facets (hs.profiles p hp)
  have hsaved : s.IsSaved := by
    refine ⟨fun p hp => (hdrawn p hp).complete, fun p hp => ?_, fun p hp => ?_,
      fun c hc => (hlinked.connections c hc).imp hcomplete hcomplete,
      fun d hd => hcomplete (hdismissals d hd).2⟩
    · obtain ⟨f, hp', hf⟩ := hmade p hp
      exact hp'.isFixed hf
    · obtain ⟨f, hp', hf⟩ := hmade p hp
      exact ⟨f.weights, hp'.resolve hf, hf.weights⟩
  exact { clean := { hs with onePerPair := nodup_pairs_iff.1 (hpairs ▸ hgraph.pairs) }
          linked := hlinked
          saved := hsaved
          users := rfl
          profiles := husers }

end Seeded

end Seed

end Matchmaker
