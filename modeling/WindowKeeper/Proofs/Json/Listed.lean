import WindowKeeper.Proofs.Json.Shaped
import WindowKeeper.Proofs.Json.Written

namespace WindowKeeper.Json

/-- A member of a record: its name, and which trees hold its value. -/
abbrev Slot := String × (Fragment → Prop)

/-- Among the members, those of `names` stand in this order, each once and with its value. The names
of all others are not those of the record. -/
inductive Listed (slots : List Slot) : Members → List String → Prop
  | closed : Listed slots .closed []
  | known {k : String} {p : Fragment → Prop} {x : Fragment} {ms : Members} {names : List String}
      (hslot : (k, p) ∈ slots) (hx : p x) (hk : k ∉ names) (h : Listed slots ms names) :
      Listed slots (.more (some k) x ms) (k :: names)
  | unknown {k : String} {ms : Members} {names : List String} (x : Fragment)
      (hk : k ∉ slots.map (·.1)) (h : Listed slots ms names) :
      Listed slots (.more (some k) x ms) names

mutual

/-- Whether a tree holds a value: objects list all members of the value's. -/
def Holds : Json → Fragment → Prop
  | .null, x => x = .null
  | .boolean b, x => x = .boolean b
  | .integer n, x => x = .number (.integer n)
  | .text s, x => x = .text (some s)
  | .array ys, x => ∃ es, x = .array es ∧ HoldsEach ys es
  | .object fs, x => ∃ ms names, x = .object ms ∧ Listed (slots fs) ms names ∧
      ∀ f ∈ fs, f.1 ∈ names

def HoldsEach : List Json → Elements → Prop
  | [], es => es = .closed
  | y :: ys, es => ∃ x rest, es = .more x rest ∧ Holds y x ∧ HoldsEach ys rest

def slots : List (String × Json) → List Slot
  | [] => []
  | (k, y) :: fs => (k, Holds y) :: slots fs

end

/-- Whether a tree is an object that lists these members of an object. -/
def Lists (names : List String) : Json → Fragment → Prop
  | .object fs, x => ∃ ms, x = .object ms ∧ Listed (slots fs) ms names
  | _, _ => False

mutual

/-- A value none of whose objects has two members of one name. -/
def Distinct : Json → Prop
  | .array xs => DistinctElements xs
  | .object fs => (fs.map (·.1)).Nodup ∧ DistinctMembers fs
  | _ => True

def DistinctElements : List Json → Prop
  | [] => True
  | x :: xs => x.Distinct ∧ DistinctElements xs

def DistinctMembers : List (String × Json) → Prop
  | [] => True
  | (_, x) :: fs => x.Distinct ∧ DistinctMembers fs

end

mutual

/-- The tree that a value is read back as holds the value. -/
theorem holds_fragment (x : Json) (hx : x.Distinct) : x.Holds x.fragment := by
  cases x with
  | array xs => exact ⟨_, rfl, holds_elements xs hx⟩
  | object fs =>
    obtain ⟨hnames, hfs⟩ := hx
    exact ⟨_, _, rfl, listed_members fs hfs hnames fun _ => id, fun f hf => List.mem_map_of_mem hf⟩
  | _ => rfl

theorem holds_elements (xs : List Json) (hxs : DistinctElements xs) :
    HoldsEach xs (elements xs) := by
  cases xs with
  | nil => rfl
  | cons x xs => exact ⟨_, _, rfl, holds_fragment x hxs.1, holds_elements xs hxs.2⟩

theorem listed_members (fs : List (String × Json)) (hfs : DistinctMembers fs)
    (hnames : (fs.map (·.1)).Nodup) {ss : List Slot} (hslots : ∀ s ∈ slots fs, s ∈ ss) :
    Listed ss (members fs) (fs.map (·.1)) := by
  cases fs with
  | nil => exact .closed
  | cons f fs =>
    obtain ⟨k, x⟩ := f
    obtain ⟨hk, hnames⟩ := List.nodup_cons.mp hnames
    obtain ⟨hslot, hslots⟩ := List.forall_mem_cons.mp hslots
    exact .known hslot (holds_fragment x hfs.1) hk (listed_members fs hfs.2 hnames hslots)

end

mutual

/-- What can be stored can be passed over. -/
theorem Fragment.skippable_of_storable {x : Fragment} {room : Nat} (h : x.storable room) :
    x.skippable := by
  cases x with
  | broken => cases h
  | array xs =>
    simp only [Fragment.storable, Bool.and_eq_true] at h
    exact Elements.skippable_of_storable h.2
  | object ms =>
    simp only [Fragment.storable, Bool.and_eq_true] at h
    exact Members.skippable_of_storable h.2
  | _ => rfl

theorem Elements.skippable_of_storable {xs : Elements} {room : Nat} (h : xs.storable room) :
    xs.skippable := by
  cases xs with
  | closed => rfl
  | broken => cases h
  | more x rest =>
    simp only [Elements.storable, Bool.and_eq_true] at h
    rw [Elements.skippable, Fragment.skippable_of_storable h.1,
      Elements.skippable_of_storable h.2, Bool.and_self]

theorem Members.skippable_of_storable {ms : Members} {room : Nat} (h : ms.storable room) :
    ms.skippable := by
  cases ms with
  | closed => rfl
  | broken => cases h
  | keyless x => cases h
  | more k x rest =>
    simp only [Members.storable, Bool.and_eq_true] at h
    rw [Members.skippable, Fragment.skippable_of_storable h.1.2,
      Members.skippable_of_storable h.2, Bool.and_self]

end

/-- Whether all elements have a property. -/
def Elements.Each (q : Fragment → Prop) : Elements → Prop
  | .more x rest => q x ∧ rest.Each q
  | _ => True

theorem Elements.each_skippable {es : Elements} (h : es.skippable) : es.Each (·.skippable) := by
  fun_induction Each (fun x => x.skippable = true) es with
  | case1 x rest ih =>
    simp only [skippable, Bool.and_eq_true] at h
    exact ⟨h.1, ih h.2⟩
  | case2 => trivial

theorem Elements.each_storable {room : Nat} {es : Elements} (h : es.storable room) :
    es.Each (·.storable room) := by
  fun_induction Each (fun x => x.storable room = true) es with
  | case1 x rest ih =>
    simp only [storable, Bool.and_eq_true] at h
    exact ⟨h.1, ih h.2⟩
  | case2 => trivial

variable {α β : Type} {src : Source}

/-- The fields are those of the slots, and reading what a slot holds keeps its member, too. -/
inductive Slotted (src : Source) (kept : List String → α) : List (Field α) → List Slot → Prop
  | nil : Slotted src kept [] []
  | cons {f : Field α} {p : Fragment → Prop} {fs : List (Field α)} {ss : List Slot}
      (hread : ∀ x, x.skippable → p x → ∀ names,
        f.read src x (kept names) = .ok (kept (f.name :: names)))
      (hrest : Slotted src kept fs ss) : Slotted src kept (f :: fs) ((f.name, p) :: ss)

namespace Slotted

variable {kept : List String → α} {fs : List (Field α)} {ss : List Slot}

theorem names_eq (h : Slotted src kept fs ss) : ss.map (·.1) = fs.map (·.name) := by
  induction h with
  | nil => rfl
  | cons hread hrest ih => rw [List.map_cons, List.map_cons, ih]

theorem exists_field (h : Slotted src kept fs ss) {k : String} {p : Fragment → Prop}
    (hs : (k, p) ∈ ss) : ∃ f ∈ fs, f.name = k ∧ ∀ x, x.skippable → p x → ∀ names,
      f.read src x (kept names) = .ok (kept (k :: names)) := by
  induction h with
  | nil => simp at hs
  | @cons f q fs ss hread hrest ih =>
    rcases List.mem_cons.mp hs with heq | hs
    · cases heq
      exact ⟨f, List.mem_cons_self, rfl, hread⟩
    · obtain ⟨g, hg, hname, hread⟩ := ih hs
      exact ⟨g, List.mem_cons_of_mem _ hg, hname, hread⟩

end Slotted

namespace Shape

variable {sh : Shape α} {kept : List String → α} {ss : List Slot} {ms : Members}
  {names : List String}

theorem readMembers_listed (hslots : Slotted src kept sh.fields ss)
    (hfields : (sh.fields.map (·.name)).Nodup) (h : Listed ss ms names) (hms : ms.skippable)
    {seen : List String} (hseen : ∀ k ∈ names, k ∉ seen) :
    sh.readMembers src ms seen (kept seen) =
      .ok (names.reverse ++ seen, kept (names.reverse ++ seen)) := by
  induction h generalizing seen with
  | closed => rfl
  | @known k p x ms names hslot hx hk h ih =>
    simp only [Members.skippable, Bool.and_eq_true] at hms
    obtain ⟨f, hf, rfl, hread⟩ := hslots.exists_field hslot
    have hnot : seen.contains f.name = false := by simpa using hseen f.name List.mem_cons_self
    have hseen' : ∀ l ∈ names, l ∉ f.name :: seen := by
      intro l hl hmem
      rcases List.mem_cons.mp hmem with rfl | hmem
      · exact hk hl
      · exact hseen l (List.mem_cons_of_mem _ hl) hmem
    have hrest := ih hms.2 hseen'
    simp only [readMembers, find?_field hfields hf, hnot, hread x hms.1 hx, List.reverse_cons,
      List.append_assoc]
    exact hrest
  | @unknown k ms names x hk h ih =>
    simp only [Members.skippable, Bool.and_eq_true] at hms
    have hnone : sh.fields.find? (·.name == k) = none := by
      rw [List.find?_eq_none]
      intro f hf heq
      rw [hslots.names_eq] at hk
      exact hk (List.mem_map.mpr ⟨f, hf, by simpa using heq⟩)
    simp only [readMembers, hnone, hms.1, if_true]
    exact ih hms.2 hseen

/-- A record is read from an object that lists some of its members, if they are all that may not be
left out. -/
theorem decoder_listed (hslots : Slotted src kept sh.fields ss)
    (hfields : (sh.fields.map (·.name)).Nodup) (hblank : kept [] = sh.blank)
    (hkept : ∀ l, kept l.reverse = kept l) (h : Listed ss ms names) (hms : ms.skippable)
    (hrequired : ∀ f ∈ sh.fields, f.presence = .required → f.name ∈ names) :
    sh.decoder src (.object ms) = .ok (kept names) := by
  have hread : sh.readMembers src ms [] (kept []) =
      .ok (names.reverse ++ [], kept (names.reverse ++ [])) :=
    readMembers_listed hslots hfields h hms (by simp)
  rw [List.append_nil, hkept, hblank] at hread
  have hmissing : sh.missing? names.reverse = none := by
    rw [missing?, Option.map_eq_none_iff, List.find?_eq_none]
    intro f hf hmissing
    simp only [Bool.and_eq_true, beq_iff_eq, Bool.not_eq_true', List.contains_eq_mem,
      decide_eq_false_iff_not, List.mem_reverse] at hmissing
    exact hmissing.2 (hrequired f hf hmissing.1)
  change sh.ofMembers src ms = _
  rw [ofMembers, hread]
  simp only [bind, Except.bind, hmissing]

/-- A record without required fields is read whatever members are listed. -/
theorem decoder_partial (hslots : Slotted src kept sh.fields ss)
    (hfields : (sh.fields.map (·.name)).Nodup) (hblank : kept [] = sh.blank)
    (hkept : ∀ l, kept l.reverse = kept l) (h : Listed ss ms names) (hms : ms.skippable)
    (hpresence : ∀ f ∈ sh.fields, f.presence ≠ .required) :
    sh.decoder src (.object ms) = .ok (kept names) :=
  decoder_listed hslots hfields hblank hkept h hms fun f hf hrequired =>
    absurd hrequired (hpresence f hf)

theorem slots_names (fs : List (String × Json)) : (slots fs).map (·.1) = fs.map (·.1) := by
  induction fs with
  | nil => rfl
  | cons f fs ih => rw [slots, List.map_cons, List.map_cons, ih]

/-- A record is read from an object that lists all its members. -/
theorem decoder_holds {fs : List (String × Json)} {x : Fragment} {a : α}
    (kept : List String → α) (hslots : Slotted src kept sh.fields (slots fs))
    (hfields : (sh.fields.map (·.name)).Nodup) (hblank : kept [] = sh.blank)
    (hkept : ∀ l, kept l.reverse = kept l)
    (hwhole : ∀ names, (∀ f ∈ fs, f.1 ∈ names) → kept names = a) (hx : x.skippable)
    (h : Holds (.object fs) x) : sh.decoder src x = .ok a := by
  obtain ⟨ms, names, rfl, hlisted, hall⟩ := h
  rw [decoder_listed hslots hfields hblank hkept hlisted hx, hwhole names hall]
  intro f hf _
  have hname : f.name ∈ sh.fields.map (·.name) := List.mem_map_of_mem hf
  rw [← hslots.names_eq, slots_names] at hname
  obtain ⟨m, hm, hmname⟩ := List.mem_map.mp hname
  exact hmname ▸ hall m hm

end Shape

namespace Decoder

variable {d : Decoder β} {write : β → Json} {P : β → Prop}

/-- A value with the property `P` is decoded from whatever holds what is written for it. -/
def Finds (d : Decoder β) (write : β → Json) (P : β → Prop) : Prop :=
  ∀ b, P b → ∀ src x, x.skippable → Holds (write b) x → d src x = .ok b

theorem Finds.read (h : d.Finds write P) {b : β} (hb : P b) {name : String} {presence : Presence}
    {set : β → α → α} {kept : List String → α}
    (hset : ∀ names, set b (kept names) = kept (name :: names)) (x : Fragment) (hx : x.skippable)
    (hholds : Holds (write b) x) (names : List String) :
    (Field.of name presence d set).read src x (kept names) = .ok (kept (name :: names)) := by
  change (set · (kept names)) <$> d src x = _
  rw [h b hb src x hx hholds, ← hset]
  rfl

theorem elements_found {q : Fragment → Prop} {bs : List β} {es : Elements}
    (hread : ∀ b ∈ bs, ∀ x, q x → Holds (write b) x → d src x = .ok b) (hq : es.Each q)
    (h : HoldsEach (bs.map write) es) : elements d src es = .ok bs := by
  induction bs generalizing es with
  | nil =>
    obtain rfl : es = .closed := h
    rfl
  | cons b bs ih =>
    obtain ⟨x, rest, rfl, hx, hrest⟩ := h
    obtain ⟨hb, hbs⟩ := List.forall_mem_cons.mp hread
    rw [elements, hb x hq.1 hx, ih hbs hq.2 hrest]
    rfl

theorem list_finds (h : d.Finds write P) :
    (list d).Finds (fun bs => .array (bs.map write)) fun bs => ∀ b ∈ bs, P b := by
  intro bs hbs src x hx hholds
  obtain ⟨es, rfl, hes⟩ := hholds
  exact elements_found (fun b hb => h b (hbs b hb) src) (Elements.each_skippable hx) hes

end Decoder

end WindowKeeper.Json
