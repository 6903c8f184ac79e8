import Mathlib.Tactic
import TopicBus.Registry.Directory

namespace TopicBus

theorem TopicId.ext_toNat {a b : TopicId} (hi : a.index.toNat = b.index.toNat)
    (hg : a.generation = b.generation) : a = b := by
  cases a
  cases b
  simp_all [UInt32.toNat_inj]

theorem TopicId.nextGeneration_ne_zero (g : UInt32) : nextGeneration g ≠ 0 := by
  unfold nextGeneration
  split
  · decide
  · assumption

namespace Directory

structure Coherent (directory : Directory) : Prop where
  names_iff : ∀ (name : String) (id : TopicId), directory.names[name]? = some id ↔
    ∃ entry : SomeTopic, directory.places[id.index.toNat]? = some ⟨id.generation, some entry⟩ ∧
      entry.topic.name = name ∧ entry.topic.id = id
  own_id : ∀ (index : Nat) (generation : UInt32) (entry : SomeTopic),
    directory.places[index]? = some ⟨generation, some entry⟩ →
    entry.topic.id.index.toNat = index ∧ entry.topic.id.generation = generation
  free_nodup : directory.free.Nodup
  mem_free_iff : ∀ index : UInt32, index ∈ directory.free ↔
    ∃ generation, directory.places[index.toNat]? = some ⟨generation, none⟩
  size_eq : directory.places.size = directory.names.size + directory.free.length
  size_le : directory.places.size ≤ Limits.registryTopics
  generation_ne : ∀ (index : Nat) (place : Place), directory.places[index]? = some place →
    place.generation ≠ 0

theorem coherent_empty : Coherent {} where
  names_iff := by simp
  own_id := by simp
  free_nodup := List.nodup_nil
  mem_free_iff := by simp
  size_eq := rfl
  size_le := Nat.zero_le _
  generation_ne := by simp

variable {directory : Directory} {id : TopicId} {entry : SomeTopic}

theorem get?_eq_some_iff :
    directory.get? id = some entry ↔
      directory.places[id.index.toNat]? = some ⟨id.generation, some entry⟩ := by
  unfold get?
  cases hp : directory.places[id.index.toNat]? with
  | none => simp
  | some place =>
      cases place with
      | mk generation occupant =>
          by_cases hg : generation = id.generation
          · simp [hg]
          · simp [hg]

theorem Coherent.names_eq_none {name : String} (h : directory.Coherent)
    (hn : directory.named? name = none) : directory.names[name]? = none := by
  cases hid : directory.names[name]? with
  | none => rfl
  | some id =>
      obtain ⟨entry, hplace, -, -⟩ := (h.names_iff name id).mp hid
      rw [named?, hid, Option.bind_some, get?_eq_some_iff.mpr hplace] at hn
      cases hn

def Fresh (directory : Directory) (id : TopicId) : Prop :=
  directory.free.head? = some id.index ∧
      directory.places[id.index.toNat]? = some ⟨id.generation, none⟩ ∨
    directory.free = [] ∧ id.index.toNat = directory.places.size ∧ id.generation = 1

theorem Coherent.freshId_eq_ok (h : directory.Coherent)
    (hroom : directory.names.size < Limits.registryTopics) :
    ∃ id, directory.freshId = .ok id ∧ directory.Fresh id := by
  unfold freshId Fresh
  cases hf : directory.free with
  | nil =>
      have hsize : directory.places.size < Limits.registryTopics := by
        have hs := h.size_eq
        rw [hf, List.length_nil] at hs
        omega
      have hindex : (UInt32.ofNat directory.places.size).toNat = directory.places.size := by
        apply UInt32.toNat_ofNat_of_lt'
        exact hsize.trans (by decide)
      refine ⟨⟨UInt32.ofNat directory.places.size, 1⟩, ?_, .inr ⟨rfl, hindex, rfl⟩⟩
      simp only [hsize, if_true]
      rfl
  | cons index rest =>
      obtain ⟨generation, hplace⟩ := (h.mem_free_iff index).mp (by simp [hf])
      refine ⟨⟨index, generation⟩, ?_, .inl ⟨rfl, hplace⟩⟩
      simp only [hplace]
      exact if_neg (h.generation_ne _ _ hplace)

theorem Coherent.fresh (h : directory.Coherent)
    (hroom : directory.names.size < Limits.registryTopics) (hid : directory.freshId = .ok id) :
    directory.Fresh id := by
  obtain ⟨id', hid', hfresh⟩ := h.freshId_eq_ok hroom
  rw [hid] at hid'
  cases hid'
  exact hfresh

theorem Fresh.vacant (hid : directory.Fresh id) (generation : UInt32) (entry : SomeTopic) :
    directory.places[id.index.toNat]? ≠ some ⟨generation, some entry⟩ := by
  rcases hid with ⟨-, hplace⟩ | ⟨-, hsize, -⟩
  · rw [hplace]
    simp
  · rw [Array.getElem?_eq_none (by omega)]
    simp

theorem Coherent.fresh_generation_ne (h : directory.Coherent) (hid : directory.Fresh id) :
    id.generation ≠ 0 := by
  rcases hid with ⟨-, hplace⟩ | ⟨-, -, hone⟩
  · exact h.generation_ne _ _ hplace
  · rw [hone]
    decide

theorem Coherent.mem_tail_free_iff (h : directory.Coherent) (hid : directory.Fresh id)
    (index : UInt32) : index ∈ directory.free.tail ↔ index ∈ directory.free ∧ index ≠ id.index := by
  rcases hid with ⟨hhead, -⟩ | ⟨hfree, -, -⟩
  · obtain ⟨rest, hfree⟩ := List.head?_eq_some_iff.mp hhead
    have hnodup := h.free_nodup
    rw [hfree, List.nodup_cons] at hnodup
    rw [hfree, List.tail_cons, List.mem_cons]
    constructor
    · intro hmem
      refine ⟨.inr hmem, ?_⟩
      rintro rfl
      exact hnodup.1 hmem
    · rintro ⟨rfl | hmem, hne⟩
      · exact absurd rfl hne
      · exact hmem
  · simp [hfree]

structure Entered (directory : Directory) (id : TopicId) (entry : SomeTopic) (next : Directory) :
    Prop where
  names_eq : next.names = directory.names.insert entry.topic.name id
  free_eq : next.free = directory.free.tail
  size_eq : next.places.size + directory.free.length = directory.places.size + next.free.length + 1
  here : next.places[id.index.toNat]? = some ⟨id.generation, some entry⟩
  there : ∀ index, index ≠ id.index.toNat → next.places[index]? = directory.places[index]?

theorem Fresh.insert_eq_ok (hid : directory.Fresh id) (entry : SomeTopic) :
    ∃ next, directory.insert id entry = .ok next ∧ directory.Entered id entry next := by
  rcases hid with ⟨hhead, hplace⟩ | ⟨hfree, hsize, -⟩
  · obtain ⟨hlt, -⟩ := Array.getElem?_eq_some_iff.mp hplace
    obtain ⟨rest, hrest⟩ := List.head?_eq_some_iff.mp hhead
    have hprepare : directory.prepare id = .ok { directory with free := directory.free.tail } :=
      if_pos hhead
    simp only [insert, hprepare, bind, Except.bind, hplace]
    refine ⟨_, rfl, rfl, rfl, ?_, ?_, ?_⟩
    · simp only [Array.size_setIfInBounds, hrest, List.tail_cons, List.length_cons]
      omega
    · exact Array.getElem?_setIfInBounds_self_of_lt hlt
    · intro index hi
      exact Array.getElem?_setIfInBounds_ne hi.symm
  · have hprepare : directory.prepare id =
        .ok { directory with places := directory.places.push ⟨id.generation, none⟩ } := by
      unfold prepare
      rw [if_neg (by simp [hfree]), if_pos hsize.symm]
    have hplace : (directory.places.push ⟨id.generation, none⟩)[id.index.toNat]? =
        some ⟨id.generation, none⟩ := by
      rw [hsize]
      exact Array.getElem?_push_size
    simp only [insert, hprepare, bind, Except.bind, hplace]
    refine ⟨_, rfl, rfl, ?_, ?_, ?_, ?_⟩
    · rw [hfree]
      rfl
    · simp only [Array.size_setIfInBounds, Array.size_push]
      omega
    · apply Array.getElem?_setIfInBounds_self_of_lt
      rw [Array.size_push]
      omega
    · intro index hi
      show (Array.setIfInBounds _ _ _)[index]? = _
      rw [Array.getElem?_setIfInBounds_ne hi.symm, Array.getElem?_push, if_neg (by omega)]

theorem Fresh.entered (hid : directory.Fresh id) {next : Directory}
    (hnext : directory.insert id entry = .ok next) : directory.Entered id entry next := by
  obtain ⟨next', hnext', hentered⟩ := hid.insert_eq_ok entry
  rw [hnext] at hnext'
  cases hnext'
  exact hentered

theorem Fresh.size_names (hid : directory.Fresh id)
    (hname : directory.names[entry.topic.name]? = none) {next : Directory}
    (hnext : directory.insert id entry = .ok next) :
    next.names.size = directory.names.size + 1 := by
  rw [(hid.entered hnext).names_eq, Std.TreeMap.size_insert,
    Std.TreeMap.contains_eq_isSome_getElem?, hname]
  rfl

theorem Fresh.get?_insert (hid : directory.Fresh id) {next : Directory}
    (hnext : directory.insert id entry = .ok next) {other : TopicId} {found : SomeTopic} :
    next.get? other = some found ↔
      other = id ∧ found = entry ∨ directory.get? other = some found := by
  have hentered := hid.entered hnext
  rw [get?_eq_some_iff, get?_eq_some_iff]
  by_cases hi : other.index.toNat = id.index.toNat
  · rw [hi, hentered.here]
    constructor
    · intro he
      simp only [Option.some.injEq, Place.mk.injEq] at he
      exact .inl ⟨TopicId.ext_toNat hi he.1.symm, he.2.symm⟩
    · rintro (⟨rfl, rfl⟩ | he)
      · rfl
      · exact absurd he (hid.vacant _ _)
  · rw [hentered.there _ hi]
    constructor
    · exact .inr
    · rintro (⟨rfl, -⟩ | he)
      · exact absurd rfl hi
      · exact he

theorem Coherent.names_iff_entered (h : directory.Coherent) (hid : directory.Fresh id)
    (hname : directory.names[entry.topic.name]? = none) (hown : entry.topic.id = id)
    {next : Directory} (hentered : directory.Entered id entry next) (name : String)
    (other : TopicId) : next.names[name]? = some other ↔
      ∃ e : SomeTopic, next.places[other.index.toNat]? = some ⟨other.generation, some e⟩ ∧
        e.topic.name = name ∧ e.topic.id = other := by
  rw [hentered.names_eq, Std.TreeMap.getElem?_insert]
  simp only [Std.compare_eq_iff_eq]
  by_cases hn : entry.topic.name = name
  · rw [if_pos hn]
    constructor
    · rintro ⟨⟩
      exact ⟨entry, hentered.here, hn, hown⟩
    · rintro ⟨e, he, hen, heo⟩
      by_cases hi : other.index.toNat = id.index.toNat
      · rw [hi, hentered.here] at he
        simp only [Option.some.injEq, Place.mk.injEq] at he
        rw [← heo, ← he.2, hown]
      · rw [hentered.there _ hi] at he
        have hold := (h.names_iff name other).mpr ⟨e, he, hen, heo⟩
        rw [← hn, hname] at hold
        cases hold
  · rw [if_neg hn, h.names_iff]
    by_cases hi : other.index.toNat = id.index.toNat
    · rw [hi, hentered.here]
      constructor
      · rintro ⟨e, he, -, -⟩
        exact absurd he (hid.vacant _ _)
      · rintro ⟨e, he, hen, -⟩
        simp only [Option.some.injEq, Place.mk.injEq] at he
        rw [← he.2] at hen
        exact absurd hen hn
    · rw [hentered.there _ hi]

theorem Coherent.insert (h : directory.Coherent) (hid : directory.Fresh id)
    (hroom : directory.names.size < Limits.registryTopics)
    (hname : directory.names[entry.topic.name]? = none) (hown : entry.topic.id = id)
    {next : Directory} (hnext : directory.insert id entry = .ok next) : next.Coherent := by
  obtain ⟨-, hfree, hsize, hhere, hthere⟩ := hid.entered hnext
  have hcount := hid.size_names hname hnext
  constructor
  case names_iff => exact h.names_iff_entered hid hname hown (hid.entered hnext)
  case own_id =>
    intro index generation e he
    by_cases hi : index = id.index.toNat
    · rw [hi, hhere] at he
      cases he
      rw [hown]
      exact ⟨hi.symm, rfl⟩
    · rw [hthere index hi] at he
      exact h.own_id index generation e he
  case free_nodup =>
    rw [hfree]
    exact h.free_nodup.sublist (List.tail_sublist _)
  case mem_free_iff =>
    intro index
    rw [hfree, h.mem_tail_free_iff hid, h.mem_free_iff]
    by_cases hi : index.toNat = id.index.toNat
    · rw [hi, hhere]
      simp [UInt32.toNat_inj.mp hi]
    · have hne : index ≠ id.index := fun he => hi (by rw [he])
      rw [hthere _ hi]
      simp [hne]
  case size_eq =>
    have hs := h.size_eq
    omega
  case size_le =>
    have hs := h.size_eq
    have hl := h.size_le
    rcases hid with ⟨hhead, -⟩ | ⟨hnil, -, -⟩
    · obtain ⟨rest, hrest⟩ := List.head?_eq_some_iff.mp hhead
      rw [hfree, hrest, List.tail_cons, List.length_cons] at hsize
      omega
    · rw [hfree, hnil, List.tail_nil, List.length_nil] at hsize
      rw [hnil, List.length_nil] at hs
      omega
  case generation_ne =>
    intro index place hplace
    by_cases hi : index = id.index.toNat
    · rw [hi, hhere] at hplace
      cases hplace
      exact h.fresh_generation_ne hid
    · rw [hthere index hi] at hplace
      exact h.generation_ne index place hplace

structure Removed (directory : Directory) (id : TopicId) (entry : SomeTopic) (next : Directory) :
    Prop where
  get?_eq : directory.get? id = some entry
  names_eq : next.names = directory.names.erase entry.topic.name
  free_eq : next.free = id.index :: directory.free
  size_eq : next.places.size = directory.places.size
  here : next.places[id.index.toNat]? = some ⟨TopicId.nextGeneration id.generation, none⟩
  there : ∀ index, index ≠ id.index.toNat → next.places[index]? = directory.places[index]?

theorem remove_eq_some (hget : directory.get? id = some entry) :
    ∃ next, directory.remove id = some (entry, next) ∧ directory.Removed id entry next := by
  obtain ⟨hlt, -⟩ := Array.getElem?_eq_some_iff.mp (get?_eq_some_iff.mp hget)
  simp only [remove, hget, Option.map_some]
  refine ⟨_, rfl, hget, rfl, rfl, Array.size_setIfInBounds, ?_, ?_⟩
  · exact Array.getElem?_setIfInBounds_self_of_lt hlt
  · intro index hi
    exact Array.getElem?_setIfInBounds_ne hi.symm

theorem removed_of_remove {next : Directory} (hnext : directory.remove id = some (entry, next)) :
    directory.Removed id entry next := by
  obtain ⟨entry', hget, he⟩ := Option.map_eq_some_iff.mp hnext
  obtain ⟨next', hnext', hremoved⟩ := remove_eq_some hget
  rw [hnext] at hnext'
  cases hnext'
  exact hremoved

theorem Coherent.id_of_get? (h : directory.Coherent) (hget : directory.get? id = some entry) :
    entry.topic.id = id := by
  obtain ⟨hindex, hgeneration⟩ := h.own_id _ _ _ (get?_eq_some_iff.mp hget)
  exact TopicId.ext_toNat hindex hgeneration

theorem Coherent.names_of_get? (h : directory.Coherent) (hget : directory.get? id = some entry) :
    directory.names[entry.topic.name]? = some id :=
  (h.names_iff _ _).mpr ⟨entry, get?_eq_some_iff.mp hget, rfl, h.id_of_get? hget⟩

theorem Coherent.size_names_remove (h : directory.Coherent) {next : Directory}
    (hnext : directory.remove id = some (entry, next)) :
    next.names.size + 1 = directory.names.size := by
  have hremoved := removed_of_remove hnext
  have hmem : directory.names.contains entry.topic.name = true := by
    rw [Std.TreeMap.contains_eq_isSome_getElem?, h.names_of_get? hremoved.get?_eq]
    rfl
  have hpos := Std.TreeMap.isEmpty_eq_false_of_contains hmem
  rw [Std.TreeMap.isEmpty_eq_size_eq_zero, beq_eq_false_iff_ne] at hpos
  rw [hremoved.names_eq, Std.TreeMap.size_erase, if_pos hmem]
  omega

theorem Removed.get?_next {next : Directory} (h : directory.Removed id entry next)
    (other : TopicId) : next.get? other = if other = id then none else directory.get? other := by
  have hplace := get?_eq_some_iff.mp h.get?_eq
  by_cases hindex : other.index.toNat = id.index.toNat
  · have hgone : next.get? other = none := by
      rw [get?, hindex, h.here]
      exact ite_self none
    rw [hgone]
    split
    · rfl
    · rename_i hother
      -- In the place of `id` an identity with another generation designates nothing.
      have hgeneration : id.generation ≠ other.generation := by
        intro hsame
        exact hother (TopicId.ext_toNat hindex hsame.symm)
      rw [get?, hindex, hplace]
      exact (if_neg hgeneration).symm
  · have hother : other ≠ id := fun hsame => hindex (by rw [hsame])
    rw [if_neg hother, get?, get?, h.there _ hindex]

theorem get?_remove {next : Directory} (hnext : directory.remove id = some (entry, next))
    {other : TopicId} {found : SomeTopic} (h : next.get? other = some found) :
    directory.get? other = some found := by
  rw [(removed_of_remove hnext).get?_next] at h
  split at h
  · cases h
  · exact h

theorem Removed.getElem?_names {next : Directory} (h : directory.Removed id entry next)
    (name : String) :
    next.names[name]? = if entry.topic.name = name then none else directory.names[name]? := by
  rw [h.names_eq, Std.TreeMap.getElem?_erase]
  simp only [Std.compare_eq_iff_eq]

theorem Coherent.named?_next (hc : directory.Coherent) {next : Directory}
    (h : directory.Removed id entry next) (name : String) :
    next.named? name = if entry.topic.name = name then none else directory.named? name := by
  rw [named?, h.getElem?_names]
  by_cases hname : entry.topic.name = name
  · rw [if_pos hname, if_pos hname]
    rfl
  · rw [if_neg hname, if_neg hname, named?]
    cases hid : directory.names[name]? with
    | none => rfl
    | some other =>
        have hother : other ≠ id := by
          rintro rfl
          obtain ⟨found, hplace, hfound, -⟩ := (hc.names_iff name other).mp hid
          have hsame := h.get?_eq.symm.trans (get?_eq_some_iff.mpr hplace)
          cases hsame
          exact hname hfound
        rw [Option.bind_some, Option.bind_some, h.get?_next, if_neg hother]

theorem Removed.freshId_next {next : Directory} (h : directory.Removed id entry next) :
    next.freshId = .ok ⟨id.index, TopicId.nextGeneration id.generation⟩ := by
  simp only [freshId, h.free_eq, h.here]
  exact if_neg (TopicId.nextGeneration_ne_zero _)

theorem Coherent.names_iff_removed (h : directory.Coherent) {next : Directory}
    (hremoved : directory.Removed id entry next) (name : String) (other : TopicId) :
    next.names[name]? = some other ↔
      ∃ e : SomeTopic, next.places[other.index.toNat]? = some ⟨other.generation, some e⟩ ∧
        e.topic.name = name ∧ e.topic.id = other := by
  have hplace := get?_eq_some_iff.mp hremoved.get?_eq
  have hname := h.names_of_get? hremoved.get?_eq
  rw [hremoved.getElem?_names]
  by_cases hi : other.index.toNat = id.index.toNat
  · rw [hi, hremoved.here]
    constructor
    · intro hother
      by_cases hn : entry.topic.name = name
      · rw [if_pos hn] at hother
        cases hother
      · rw [if_neg hn] at hother
        obtain ⟨e, he, hen, -⟩ := (h.names_iff name other).mp hother
        rw [hi, hplace] at he
        simp only [Option.some.injEq, Place.mk.injEq] at he
        rw [← he.2] at hen
        exact absurd hen hn
    · rintro ⟨e, he, -, -⟩
      simp only [Option.some.injEq, Place.mk.injEq, reduceCtorEq, and_false] at he
  · rw [hremoved.there _ hi, ← h.names_iff]
    by_cases hn : entry.topic.name = name
    · rw [if_pos hn, ← hn, hname]
      constructor
      · rintro ⟨⟩
      · rintro ⟨⟩
        exact absurd rfl hi
    · rw [if_neg hn]

theorem Coherent.remove (h : directory.Coherent) {next : Directory}
    (hnext : directory.remove id = some (entry, next)) : next.Coherent := by
  obtain ⟨hget, -, hfree, hsize, hhere, hthere⟩ := removed_of_remove hnext
  have hplace := get?_eq_some_iff.mp hget
  have hcount := h.size_names_remove hnext
  constructor
  case names_iff => exact h.names_iff_removed (removed_of_remove hnext)
  case own_id =>
    intro index generation e he
    by_cases hi : index = id.index.toNat
    · rw [hi, hhere] at he
      cases he
    · rw [hthere index hi] at he
      exact h.own_id index generation e he
  case free_nodup =>
    rw [hfree, List.nodup_cons]
    refine ⟨?_, h.free_nodup⟩
    intro hmem
    obtain ⟨generation, hnone⟩ := (h.mem_free_iff _).mp hmem
    rw [hplace] at hnone
    cases hnone
  case mem_free_iff =>
    intro index
    rw [hfree, List.mem_cons, h.mem_free_iff]
    by_cases hi : index.toNat = id.index.toNat
    · rw [hi, hhere]
      simp [UInt32.toNat_inj.mp hi]
    · have hne : index ≠ id.index := fun he => hi (by rw [he])
      rw [hthere _ hi]
      simp [hne]
  case size_eq =>
    have hs := h.size_eq
    rw [hsize, hfree, List.length_cons]
    omega
  case size_le =>
    rw [hsize]
    exact h.size_le
  case generation_ne =>
    intro index place hp
    by_cases hi : index = id.index.toNat
    · rw [hi, hhere] at hp
      cases hp
      exact TopicId.nextGeneration_ne_zero _
    · rw [hthere index hi] at hp
      exact h.generation_ne index place hp

end Directory

end TopicBus
