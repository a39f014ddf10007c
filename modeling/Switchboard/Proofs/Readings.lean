import Switchboard.Json.Record
import Switchboard.Proofs.Scanning

/-!
Readers that make the same of a written value in whatever text it stands: the white space between its tokens
makes no difference to them, nor what follows it. So are all readers of single values here; what a reader
makes of a value is then a function of the written value alone.
-/

namespace Switchboard.Json

open Switchboard.Text Written

variable {α β σ : Type}

/-- A reader makes the same of every text that begins with the written value, and takes it off. -/
def ReadsAs (reader : Reader α) (value : Written) (x : Except Fault α) : Prop :=
  ∀ text rest, value.Begins text rest → Delimits rest → reader text = (·, rest) <$> x

/-- What a reader makes of a written value depends on nothing else. -/
def Makes (reader : Reader α) (make : Written → Except Fault α) : Prop :=
  ∀ value, ReadsAs reader value (make value)

theorem exists_makes {reader : Reader α} (h : ∀ value, ∃ x, ReadsAs reader value x) :
    ∃ make, Makes reader make := by
  choose make hmake using h
  exact ⟨make, hmake⟩

theorem Makes.map {reader : Reader α} {make : Written → Except Fault α} (h : Makes reader make)
    (f : α → β) :
    Makes (fun text => do
      let (a, rest) ← reader text
      .ok (f a, rest)) (f <$> make ·) := by
  intro value text rest hbegins hrest
  show (reader text >>= _) = _
  rw [h value text rest hbegins hrest]
  exact map_bind_ok f rest (make value)

theorem readAll_of_document {reader : Nat → Reader α} {make : Written → Except Fault α}
    (hmake : Makes (reader maxDepth) make) {value : Written} {text : String} (h : value.Document text) :
    readAll reader text = make value := by
  obtain ⟨rest, hbegins, hend⟩ := h
  have hrest : Delimits rest := Delimits.of_skipSpace (hend ▸ nofun)
  rw [readAll, hmake value _ rest hbegins hrest]
  rcases make value with fault | a
  · rfl
  · show (if (skipSpace rest).isEmpty then _ else _) = _
    rw [hend]
    rfl

section Tokens

variable {first : Bool} {text rest start after : List Char}

theorem nextItem_of_lead {value : Written} (hlead : Lead first text start)
    (h : value.Begins start after) : nextItem first text = .ok (some (skipSpace start)) := by
  obtain ⟨c, more, hcons, hc⟩ := h.exists_cons
  cases first with
  | true =>
      obtain rfl : text = start := hlead
      rw [nextItem_first hcons hc, hcons]
  | false =>
      rw [nextItem_next hlead hcons hc, hcons]

theorem nextItem_of_close (h : Token [']'] text rest) : nextItem first text = .ok none := by
  rw [nextItem, h]
  rfl

theorem closeList_of_token (h : Token [']'] text rest) : closeList text = .ok rest := by
  rw [closeList, h]
  rfl

theorem nextName_of_lead {name : Quotation} (hlead : Lead first text start)
    (h : Token name.quoted start after) :
    nextName first text = some <$> readStringBody (name.chars ++ '"' :: after) := by
  rw [Token, name.quoted_append] at h
  cases first with
  | true =>
      obtain rfl : text = start := hlead
      exact nextName_first h
  | false => exact nextName_next hlead h

theorem nextName_of_close (h : Token ['\x7d'] text rest) : nextName first text = .ok none := by
  rw [nextName, h]
  rfl

theorem readColon_of_token (h : Token [':'] text rest) : readColon text = .ok rest := by
  rw [readColon, h]
  rfl

theorem closeObject_of_token (h : Token ['\x7d'] text rest) : closeObject text = .ok rest := by
  rw [closeObject, h]
  rfl

end Tokens

section Containers

variable {first : Bool} {text rest close : List Char} {bound : Nat}

theorem readItems_of_itemsBegin {reader : Reader α} {make : Written → Except Fault α}
    {items : List Written} (hitems : ∀ item ∈ items, ReadsAs reader item (make item))
    (hbound : items.length < bound) (h : ItemsBegin first items text close)
    (hclose : Token [']'] close rest) :
    readItems reader bound first text = (·, close) <$> items.mapM make := by
  induction items generalizing bound first text with
  | nil =>
      obtain ⟨bound, rfl⟩ := Nat.exists_eq_add_one.mpr hbound
      rw [ItemsBegin] at h
      subst h
      rw [readItems, nextItem_of_close hclose]
      rfl
  | cons item items ih =>
      obtain ⟨bound, rfl⟩ := Nat.exists_eq_add_one.mpr (Nat.zero_lt_of_lt hbound)
      rw [ItemsBegin] at h
      obtain ⟨start, after, hlead, hitem, hmore⟩ := h
      obtain ⟨hfirst, hothers⟩ := List.forall_mem_cons.mp hitems
      have hread := hfirst (skipSpace start) after (begins_skipSpace.mpr hitem) (hmore.delimits hclose)
      rw [readItems, nextItem_of_lead hlead hitem, List.mapM_cons]
      show (reader (skipSpace start) >>= _) = _
      rw [hread, bind_map_left, map_bind]
      congr 1
      funext a
      show (readItems reader bound false after >>= _) = _
      rw [ih hothers (Nat.lt_of_succ_lt_succ hbound) hmore, map_bind_ok]
      rcases items.mapM make with fault | all
      · rfl
      · rfl

theorem readMembers_of_membersBegin {member : σ → String → Except Fault (Reader σ)}
    (collect : σ → String → Written → Except Fault σ) {members : List (Quotation × Written)}
    (hmembers : ∀ entry ∈ members, ∀ all name text rest, entry.2.Begins text rest → Delimits rest →
      (member all name >>= fun read => read text) = (·, rest) <$> collect all name entry.2)
    (hbound : members.length < bound) (h : MembersBegin first members text close)
    (hclose : Token ['\x7d'] close rest) (all : σ) :
    readMembers member bound first all text = (·, close) <$> members.foldlM
      (fun all entry => entry.1.reading >>= fun name => collect all name entry.2) all := by
  induction members generalizing bound first text all with
  | nil =>
      obtain ⟨bound, rfl⟩ := Nat.exists_eq_add_one.mpr hbound
      rw [MembersBegin] at h
      subst h
      rw [readMembers, nextName_of_close hclose]
      rfl
  | cons entry members ih =>
      obtain ⟨bound, rfl⟩ := Nat.exists_eq_add_one.mpr (Nat.zero_lt_of_lt hbound)
      rw [MembersBegin] at h
      obtain ⟨start, colon, valueStart, after, hlead, hname, hcolon, hvalue, hmore⟩ := h
      obtain ⟨hfirst, hothers⟩ := List.forall_mem_cons.mp hmembers
      rw [readMembers, nextName_of_lead hlead hname, entry.1.readStringBody_append, List.foldlM_cons]
      rcases entry.1.reading with fault | name
      · rfl
      have hread := hfirst all name valueStart after hvalue (hmore.delimits hclose)
      have hcollected : ∀ all, readMembers member bound false all after = _ :=
        ih hothers (Nat.lt_of_succ_lt_succ hbound) hmore
      show (member all name >>= fun read => readColon colon >>= fun rest => read rest >>=
        fun (all, rest) => readMembers member bound false all rest) = (·, close) <$>
          (collect all name entry.2 >>= _)
      rw [readColon_of_token hcolon]
      show (member all name >>= fun read => read valueStart >>=
        fun (all, rest) => readMembers member bound false all rest) = _
      rw [← bind_assoc, hread, bind_map_left, map_bind]
      congr 1
      funext all
      exact hcollected all

end Containers

section Single

variable {text rest more : List Char} {c : Char}

/-- The fault of what is found where another kind of value was expected, or why nothing was found. -/
def faultOf (expected : String) : Except Fault Found → Fault
  | .ok found => .wrongKind found expected
  | .error fault => fault

def Number.found : Number → Found
  | .whole n => .whole n
  | .float x => .float x

theorem mismatch_quote (expected : String) (h : skipSpace text = '"' :: more) :
    mismatch expected text = faultOf expected (.string <$> Prod.fst <$> readStringBody more) := by
  rw [mismatch, h, ← comp_map]
  rfl

theorem mismatch_minus (expected : String) (h : skipSpace text = '-' :: more) :
    mismatch expected text = faultOf expected (Number.found <$> Prod.fst <$> readNumber true more) := by
  rw [mismatch, h, ← comp_map]
  rfl

theorem mismatch_digit (expected : String) (hc : c.isDigit = true) (h : skipSpace text = c :: more) :
    mismatch expected text =
      faultOf expected (Number.found <$> Prod.fst <$> readNumber false (c :: more)) := by
  rw [mismatch, h, ← comp_map]
  split
  all_goals rename_i hsame; cases hsame
  all_goals first
    | exact absurd hc (by decide)
    | rw [if_pos hc]
      rfl

theorem fst_map_pair (x : Except Fault α) (rest : List Char) : Prod.fst <$> (·, rest) <$> x = x := by
  rw [← comp_map]
  exact id_map x

/-- The fault of a value of another kind than expected, as it is for the written value. -/
theorem exists_mismatch (expected : String) (value : Written) :
    ∃ fault, ∀ text rest, value.Begins text rest → Delimits rest → mismatch expected text = fault := by
  cases value with
  | null =>
      refine ⟨.wrongKind .null expected, fun text rest h _ => ?_⟩
      rw [Begins, Token] at h
      rw [mismatch, h]
      rfl
  | bool b =>
      refine ⟨.wrongKind (.bool b) expected, fun text rest h _ => ?_⟩
      cases b with
      | false =>
          rw [Begins, Token] at h
          rw [mismatch, h]
          rfl
      | true =>
          rw [Begins, Token] at h
          rw [mismatch, h]
          rfl
  | number n =>
      obtain ⟨x, hx⟩ := n.exists_readNumber
      refine ⟨faultOf expected (Number.found <$> x), fun text rest h hrest => ?_⟩
      have hmismatch : mismatch expected text = faultOf expected
          (Number.found <$> Prod.fst <$> readNumber n.negative (n.magnitude ++ rest)) :=
        h.number_cases
          (fun negative text => faultOf expected (Number.found <$> Prod.fst <$> readNumber negative text))
          (fun _ _ => mismatch_minus expected) fun _ _ _ => mismatch_digit expected
      rw [hmismatch, hx rest hrest, fst_map_pair]
  | string s =>
      refine ⟨faultOf expected (.string <$> s.reading), fun text rest h _ => ?_⟩
      rw [Begins, Token, s.quoted_append] at h
      rw [mismatch_quote expected h, s.readStringBody_append, fst_map_pair]
  | array items =>
      refine ⟨.wrongKind .list expected, fun text rest h _ => ?_⟩
      rw [Begins] at h
      obtain ⟨inner, close, hopen, -⟩ := h
      rw [mismatch, hopen]
      rfl
  | object members =>
      refine ⟨.wrongKind .object expected, fun text rest h _ => ?_⟩
      rw [Begins] at h
      obtain ⟨inner, close, hopen, -⟩ := h
      rw [mismatch, hopen]
      rfl

end Single

theorem eq_of_map_pair_eq {x y : Except Fault α} {rest : List Char}
    (h : (·, rest) <$> x = (·, rest) <$> y) : x = y := by
  rcases x with fault | a <;> rcases y with fault' | b <;> cases h <;> rfl

/-- Two answers about one value are the same, since the value has a text. -/
theorem ReadsAs.unique {reader : Reader α} {value : Written} {x y : Except Fault α}
    (hx : ReadsAs reader value x) (hy : ReadsAs reader value y) : x = y :=
  eq_of_map_pair_eq ((hx _ [] (value.begins_compact []) nofun).symm.trans
    (hy _ [] (value.begins_compact []) nofun))

section Leaves

variable {text rest more : List Char} {c : Char} {value : Written}

theorem exists_readsAs_mismatch {reader : Reader α} (expected : String)
    (h : ∀ text c more, skipSpace text = c :: more → c ∈ value.heads →
      reader text = .error (mismatch expected (c :: more))) :
    ∃ x, ReadsAs reader value x := by
  obtain ⟨fault, hfault⟩ := exists_mismatch expected value
  refine ⟨.error fault, fun text rest hbegins hrest => ?_⟩
  obtain ⟨c, more, hcons, hc⟩ := hbegins.exists_head
  rw [h text c more hcons hc, ← hcons, hfault _ rest (begins_skipSpace.mpr hbegins) hrest]
  rfl

theorem readsAs_readString (expected : String) (s : Quotation) :
    ReadsAs (readString expected) (.string s) s.reading := by
  intro text rest h _
  rw [Begins, Token, s.quoted_append] at h
  rw [readString, h]
  exact s.readStringBody_append rest

theorem exists_readsAs_readString (expected : String) (h : '"' ∉ value.heads) :
    ∃ x, ReadsAs (readString expected) value x := by
  refine exists_readsAs_mismatch expected fun text c more hcons hc => ?_
  rw [readString, hcons]
  split
  · rename_i hsame
    exact absurd ((List.cons.inj hsame).1 ▸ hc) h
  · rfl

theorem exists_makes_readString (expected : String) : ∃ make, Makes (readString expected) make := by
  refine exists_makes fun value => ?_
  cases value with
  | string s => exact ⟨s.reading, readsAs_readString expected s⟩
  | null | bool b | number n | array items | object members =>
      exact exists_readsAs_readString expected (of_decide_eq_true rfl)

def Number.natural (expected : String) : Number → Except Fault Nat
  | .whole n => if n < 0 then .error (.wrongValue (.whole n) expected) else .ok n.toNat
  | .float x => .error (.wrongKind (.float x) expected)

theorem readNatural_eq (expected : String) (text : List Char) :
    readNatural expected text =
      let natural : Number × List Char → Except Fault (Nat × List Char)
        | (n, rest) => (·, rest) <$> n.natural expected
      match skipSpace text with
      | '-' :: rest => readNumber true rest >>= natural
      | c :: rest =>
        if c.isDigit then readNumber false (c :: rest) >>= natural
        else .error (mismatch expected (c :: rest))
      | [] => .error .endInValue := by
  unfold readNatural
  extract_lets ofNumber natural
  have hsame : ofNumber = natural := by
    funext ⟨n, rest⟩
    rcases n with n | x
    · show (if n < 0 then _ else _) = (·, rest) <$> (if n < 0 then _ else _)
      split
      · rfl
      · rfl
    · rfl
  exact hsame ▸ rfl

theorem readNatural_minus (expected : String) (h : skipSpace text = '-' :: more) :
    readNatural expected text =
      readNumber true more >>= fun (n, rest) => (·, rest) <$> n.natural expected := by
  rw [readNatural_eq, h]
  rfl

theorem readNatural_digit (expected : String) (hc : c.isDigit = true)
    (h : skipSpace text = c :: more) :
    readNatural expected text =
      readNumber false (c :: more) >>= fun (n, rest) => (·, rest) <$> n.natural expected := by
  rw [readNatural_eq, h]
  dsimp only
  split
  · rename_i hsame
    exact absurd ((List.cons.inj hsame).1 ▸ hc) (by decide)
  · rename_i hsame
    obtain ⟨rfl, rfl⟩ := List.cons.inj hsame
    rw [if_pos hc]
  · rename_i hsame
    cases hsame

theorem exists_readsAs_number (n : Figures) :
    ∃ number : Except Fault Number,
      (∀ rest, Delimits rest → readNumber n.negative (n.magnitude ++ rest) = (·, rest) <$> number) ∧
      ∀ expected, ReadsAs (readNatural expected) (.number n) (number >>= Number.natural expected) := by
  obtain ⟨number, hnumber⟩ := n.exists_readNumber
  refine ⟨number, hnumber, fun expected text rest h hrest => ?_⟩
  have hnatural : readNatural expected text =
      readNumber n.negative (n.magnitude ++ rest) >>= fun (n, rest) =>
        (·, rest) <$> n.natural expected :=
    h.number_cases (fun negative text => readNumber negative text >>= fun (n, rest) =>
        (·, rest) <$> n.natural expected)
      (fun _ _ => readNatural_minus expected) fun _ _ _ => readNatural_digit expected
  rw [hnatural, hnumber rest hrest, bind_map_left, map_bind]

theorem readNatural_whole_eq_ok_iff {expected : String} {whole : Whole} {x : Except Fault Nat}
    (h : ReadsAs (readNatural expected) (.number (.ofWhole whole)) x) (n : Nat) :
    x = .ok n ↔ Numeral.value whole.chars = n ∧ n ≤ maxWhole := by
  have hend : Delimits [] := nofun
  obtain ⟨number, hnumber, hread⟩ := exists_readsAs_number (.ofWhole whole)
  have hnumber := hnumber [] hend
  rw [Figures.magnitude_ofWhole, Figures.ofWhole] at hnumber
  rw [h.unique (hread expected)]
  rcases Nat.lt_or_ge maxWhole (Numeral.value whole.chars) with hbeyond | hfits
  · have hgather : (gather 0 0 whole.chars).2.2 = true := gather_beyond (Nat.zero_le _) hbeyond
    rw [readNumber_append false whole hend.not_isDigit, readTail_of_delimits false _ hend] at hnumber
    dsimp only at hnumber
    rw [hgather, if_pos rfl] at hnumber
    rw [← eq_of_map_pair_eq hnumber, bind_map_left]
    refine iff_of_false (fun hfloat => ?_) fun ⟨hvalue, hle⟩ => Nat.not_lt.mpr hle (hvalue ▸ hbeyond)
    obtain ⟨x, -, hfloat⟩ := bind_eq_ok_iff.mp hfloat
    cases hfloat
  · have hwhole : readNumber false (whole.chars ++ []) =
        (·, []) <$> Except.ok (.whole (Numeral.value whole.chars)) :=
      readNumber_whole hfits false hend
    rw [hwhole] at hnumber
    rw [← eq_of_map_pair_eq hnumber]
    show Number.natural expected (.whole (Numeral.value whole.chars)) = _ ↔ _
    rw [Number.natural, if_neg (Int.not_lt.mpr (Int.natCast_nonneg _)), Int.toNat_natCast,
      Except.ok.injEq]
    exact ⟨fun hvalue => ⟨hvalue, hvalue ▸ hfits⟩, And.left⟩

theorem exists_readsAs_readNatural (expected : String)
    (h : (value.heads.any fun c => c = '-' || c.isDigit) = false) :
    ∃ x, ReadsAs (readNatural expected) value x := by
  refine exists_readsAs_mismatch expected fun text c more hcons hc => ?_
  obtain ⟨hminus, hdigit⟩ : c ≠ '-' ∧ c.isDigit = false := by
    simpa using List.any_eq_false.mp h c hc
  rw [readNatural_eq, hcons]
  dsimp only
  split
  · rename_i hsame
    exact absurd (List.cons.inj hsame).1 hminus
  · rename_i hsame
    obtain ⟨rfl, rfl⟩ := List.cons.inj hsame
    rw [if_neg (by rw [hdigit]; exact Bool.false_ne_true)]
  · rename_i hsame
    cases hsame

theorem exists_makes_readNatural (expected : String) :
    ∃ make, Makes (readNatural expected) make := by
  refine exists_makes fun value => ?_
  cases value with
  | number n =>
      obtain ⟨number, -, hread⟩ := exists_readsAs_number n
      exact ⟨_, hread expected⟩
  | null | bool b | string s | array items | object members =>
      exact exists_readsAs_readNatural expected rfl

end Leaves

section Nested

variable {text rest inner close : List Char} {value : Written}

theorem readItems_closeList {reader : Reader α} {make : Written → Except Fault α}
    {items : List Written} (hitems : ∀ item ∈ items, ReadsAs reader item (make item))
    (h : ItemsBegin true items inner close) (hclose : Token [']'] close rest) (f : List α → β) :
    (do
      let (all, rest) ← readItems reader (inner.length + 1) true inner
      let rest ← closeList rest
      .ok (f all, rest)) = (·, rest) <$> f <$> items.mapM make := by
  have hlength := h.length_add_le fun _ _ _ _ => Begins.length_lt
  rw [readItems_of_itemsBegin hitems (by omega) h hclose, bind_map_left]
  rcases items.mapM make with fault | all
  · rfl
  · show (closeList close >>= _) = _
    rw [closeList_of_token hclose]
    rfl

theorem readMembers_closeObject {reader : Reader α} {make : Written → Except Fault α}
    {put : String → α → σ → σ} {members : List (Quotation × Written)}
    (hmembers : ∀ entry ∈ members, ReadsAs reader entry.2 (make entry.2))
    (h : MembersBegin true members inner close) (hclose : Token ['\x7d'] close rest) (all : σ)
    (f : σ → β) :
    (do
      let (all, rest) ← readMembers (fun all name => .ok fun text => do
        let (a, rest) ← reader text
        .ok (put name a all, rest)) (inner.length + 1) true all inner
      let rest ← closeObject rest
      .ok (f all, rest)) = (·, rest) <$> f <$> members.foldlM
        (fun all entry => entry.1.reading >>= fun name => (put name · all) <$> make entry.2) all := by
  have hlength := h.length_add_le fun _ _ _ _ => Begins.length_lt
  rw [readMembers_of_membersBegin (fun all name value => (put name · all) <$> make value) ?_
    (by omega) h hclose, bind_map_left]
  · rcases members.foldlM _ all with fault | all
    · rfl
    · show (closeObject close >>= _) = _
      rw [closeObject_of_token hclose]
      rfl
  · intro entry hentry all name text rest hvalue hrest
    show (reader text >>= _) = _
    rw [hmembers entry hentry text rest hvalue hrest]
    exact map_bind_ok (put name · all) rest _

theorem readValue_minus (room : Nat) {more : List Char} (h : skipSpace text = '-' :: more) :
    readValue room text = readNumber true more >>= fun (n, rest) => .ok (.number n, rest) := by
  unfold readValue
  rw [h]
  rfl

theorem readValue_digit (room : Nat) {c : Char} {more : List Char} (hc : c.isDigit = true)
    (h : skipSpace text = c :: more) :
    readValue room text =
      readNumber false (c :: more) >>= fun (n, rest) => .ok (.number n, rest) := by
  unfold readValue
  rw [h]
  split
  all_goals rename_i hsame; cases hsame
  all_goals first
    | exact absurd hc (by decide)
    | exact if_pos hc

theorem exists_readsAs_readValue (room : Nat) (value : Written) :
    ∃ x, ReadsAs (readValue room) value x := by
  induction value using Written.induct generalizing room with
  | null =>
      refine ⟨.ok .null, fun text rest h _ => ?_⟩
      rw [Begins, Token] at h
      unfold readValue
      rw [h]
      rfl
  | bool b =>
      refine ⟨.ok (.bool b), fun text rest h _ => ?_⟩
      unfold readValue
      cases b with
      | false =>
          rw [Begins, Token] at h
          rw [h]
          rfl
      | true =>
          rw [Begins, Token] at h
          rw [h]
          rfl
  | number n =>
      obtain ⟨number, hnumber⟩ := n.exists_readNumber
      refine ⟨.number <$> number, fun text rest h hrest => ?_⟩
      have hvalue : readValue room text = readNumber n.negative (n.magnitude ++ rest) >>=
          fun (n, rest) => .ok (.number n, rest) :=
        h.number_cases (fun negative text =>
            readNumber negative text >>= fun (n, rest) => .ok (Json.number n, rest))
          (fun _ _ => readValue_minus room) fun _ _ _ => readValue_digit room
      rw [hvalue, hnumber rest hrest]
      exact map_bind_ok Json.number rest number
  | string s =>
      refine ⟨.string <$> s.reading, fun text rest h _ => ?_⟩
      rw [Begins, Token, s.quoted_append] at h
      unfold readValue
      rw [h]
      show (readStringBody (s.chars ++ '"' :: rest) >>= _) = _
      rw [s.readStringBody_append]
      exact map_bind_ok Json.string rest s.reading
  | array items ih =>
      rcases room with _ | room
      · refine ⟨.error .tooDeep, fun text rest h _ => ?_⟩
        rw [Begins] at h
        obtain ⟨inner, close, hopen, -⟩ := h
        unfold readValue
        rw [hopen]
        rfl
      · have : Nonempty (Except Fault Json) := ⟨.error .tooDeep⟩
        choose! make hmake using fun item hmem => ih item hmem room
        refine ⟨.array <$> items.mapM make, fun text rest h _ => ?_⟩
        rw [Begins] at h
        obtain ⟨inner, close, hopen, hitems, hclose⟩ := h
        unfold readValue
        rw [hopen]
        exact readItems_closeList hmake hitems hclose Json.array
  | object members ih =>
      rcases room with _ | room
      · refine ⟨.error .tooDeep, fun text rest h _ => ?_⟩
        rw [Begins] at h
        obtain ⟨inner, close, hopen, -⟩ := h
        unfold readValue
        rw [hopen]
        rfl
      · have : Nonempty (Except Fault Json) := ⟨.error .tooDeep⟩
        have hvalues : ∀ value, (∃ name, (name, value) ∈ members) →
            ∃ x, ReadsAs (readValue room) value x := by
          rintro value ⟨name, hmem⟩
          exact ih (name, value) hmem room
        choose! make hmake using hvalues
        refine ⟨.object <$> members.foldlM (fun all entry => entry.1.reading >>= fun name =>
          (putMember name · all) <$> make entry.2) [], fun text rest h _ => ?_⟩
        rw [Begins] at h
        obtain ⟨inner, close, hopen, hmembers, hclose⟩ := h
        unfold readValue
        rw [hopen]
        exact readMembers_closeObject (fun entry hmem => hmake entry.2 ⟨entry.1, hmem⟩) hmembers
          hclose [] Json.object

theorem readList_of_ne (item : Nat → Reader α) (room : Nat) (h : '[' ∉ value.heads) :
    ∃ x, ReadsAs (readList item room) value x := by
  refine exists_readsAs_mismatch "a sequence" fun text c more hcons hc => ?_
  rw [readList, hcons]
  split
  · rename_i hsame
    exact absurd ((List.cons.inj hsame).1 ▸ hc) h
  · rfl

theorem exists_makes_readList {item : Nat → Reader α} (hitem : ∀ room, ∃ make, Makes (item room) make)
    (room : Nat) : ∃ make, Makes (readList item room) make := by
  refine exists_makes fun value => ?_
  cases value with
  | array items =>
      rcases room with _ | room
      · refine ⟨.error .tooDeep, fun text rest h _ => ?_⟩
        rw [Begins] at h
        obtain ⟨inner, close, hopen, -⟩ := h
        rw [readList, hopen]
        rfl
      · obtain ⟨make, hmake⟩ := hitem room
        refine ⟨items.mapM make, fun text rest h _ => ?_⟩
        rw [Begins] at h
        obtain ⟨inner, close, hopen, hitems, hclose⟩ := h
        rw [readList, hopen]
        have hread := readItems_closeList (fun item _ => hmake item) hitems hclose id
        rw [id_map] at hread
        exact hread
  | null | bool b | number n | string s | object members =>
      exact readList_of_ne item room (of_decide_eq_true rfl)

end Nested

section Names

variable {choices : List (String × α)} {text rest start after : List Char} {value : Written}

def readUnit (text : List Char) : Except Fault (List Char) :=
  match skipSpace text with
  | 'n' :: rest => readWord ['u', 'l', 'l'] rest
  | text => .error (mismatch "unit" text)

theorem exists_readUnit (value : Written) :
    ∃ x : Except Fault Unit, ∀ text rest, value.Begins text rest → Delimits rest →
      readUnit text = (fun _ => rest) <$> x := by
  by_cases hn : 'n' ∈ value.heads
  · cases value with
    | null =>
        refine ⟨.ok (), fun text rest h _ => ?_⟩
        rw [Begins, Token] at h
        rw [readUnit, h]
        rfl
    | bool b | number n | string s | array items | object members =>
        exact absurd hn (of_decide_eq_true rfl)
  · obtain ⟨fault, hfault⟩ := exists_mismatch "unit" value
    refine ⟨.error fault, fun text rest h hrest => ?_⟩
    obtain ⟨c, more, hcons, hc⟩ := h.exists_head
    have hmismatch := hfault _ rest (begins_skipSpace.mpr h) hrest
    rw [readUnit]
    rw [hcons] at hmismatch ⊢
    split
    · rename_i hsame
      exact absurd ((List.cons.inj hsame).1 ▸ hc) hn
    · rw [hmismatch]
      rfl

def closeSole (a : α) : Reader α := fun text =>
  match skipSpace text with
  | [] => .error .endInObject
  | '\x7d' :: rest => .ok (a, rest)
  | _ => .error .expectedValue

def readSole (a : α) : Reader α := fun text => do
  let rest ← readColon text
  let rest ← readUnit rest
  closeSole a rest

theorem exists_readSole (value : Written) (members : List (Quotation × Written)) (a : α) :
    ∃ x : Except Fault α, ∀ colon start after close rest, Token [':'] colon start →
      value.Begins start after → MembersBegin false members after close →
      Token ['\x7d'] close rest → readSole a colon = (·, rest) <$> x := by
  obtain ⟨unit, hunit⟩ := exists_readUnit value
  refine ⟨unit >>= fun _ => if members.isEmpty then .ok a else .error .expectedValue,
    fun colon start after close rest hcolon hvalue hmembers hclose => ?_⟩
  rw [readSole, readColon_of_token hcolon, ok_bind,
    hunit start after hvalue (hmembers.delimits hclose)]
  rcases unit with fault | -
  · rfl
  · show closeSole a after = _
    cases members with
    | nil =>
        rw [MembersBegin] at hmembers
        rw [closeSole, hmembers, hclose]
        rfl
    | cons member members =>
        rw [MembersBegin] at hmembers
        obtain ⟨next, _, _, _, hlead, -⟩ := hmembers
        have hcomma : skipSpace after = ',' :: next := hlead
        rw [closeSole, hcomma]
        rfl

def readFirstName : Reader String := fun text =>
  match skipSpace text with
  | [] => .error .endInObject
  | '"' :: rest => readStringBody rest
  | '\x7d' :: _ => .error .expectedValue
  | _ => .error .keyNotString

def readSoleName (choices : List (String × α)) : Reader α := fun text => do
  let (name, rest) ← readFirstName text
  let a ← chooseName choices name
  readSole a rest

theorem readUnit_bind (f : List Char → Except Fault β) (text : List Char) :
    readUnit text >>= f =
      match skipSpace text with
      | 'n' :: rest => readWord ['u', 'l', 'l'] rest >>= f
      | text => .error (mismatch "unit" text) >>= f := by
  unfold readUnit
  split <;> rfl

theorem readFirstName_bind (f : String × List Char → Except Fault β) (text : List Char) :
    readFirstName text >>= f =
      match skipSpace text with
      | [] => .error .endInObject
      | '"' :: rest => readStringBody rest >>= f
      | '\x7d' :: _ => .error .expectedValue
      | _ => .error .keyNotString := by
  unfold readFirstName
  split <;> rfl

theorem readName_object (room : Nat) {inner : List Char} (h : Token ['\x7b'] text inner) :
    readName choices (room + 1) text = readSoleName choices inner := by
  rw [readName, h, readSoleName, readFirstName_bind]
  simp only [readSole, readUnit_bind]
  rfl

theorem exists_readSoleName (choices : List (String × α)) (members : List (Quotation × Written)) :
    ∃ x : Except Fault α, ∀ inner close rest, MembersBegin true members inner close →
      Token ['\x7d'] close rest → readSoleName choices inner = (·, rest) <$> x := by
  cases members with
  | nil =>
      refine ⟨.error .expectedValue, fun inner close rest hmembers hclose => ?_⟩
      rw [MembersBegin] at hmembers
      rw [readSoleName, readFirstName, hmembers, hclose]
      rfl
  | cons member members =>
      obtain ⟨name, value⟩ := member
      choose sole hsole using exists_readSole (α := α) value members
      refine ⟨name.reading >>= chooseName choices >>= sole, fun inner close rest hmembers hclose => ?_⟩
      rw [MembersBegin] at hmembers
      obtain ⟨start, colon, valueStart, after, hlead, hname, hcolon, hvalue, hmore⟩ := hmembers
      obtain rfl : inner = start := hlead
      rw [Token, name.quoted_append] at hname
      rw [readSoleName, readFirstName, hname]
      show (readStringBody (name.chars ++ '"' :: colon) >>= _) = _
      rw [name.readStringBody_append]
      rcases name.reading with fault | text
      · rfl
      show (chooseName choices text >>= _) = (·, rest) <$> (chooseName choices text >>= sole)
      rcases chooseName choices text with fault | a
      · rfl
      · exact hsole a colon valueStart after close rest hcolon hvalue hmore hclose

theorem readsAs_readName_string (choices : List (String × α)) (room : Nat) (s : Quotation) :
    ReadsAs (readName choices room) (.string s) (s.reading >>= chooseName choices) := by
  intro text rest h _
  rw [Begins, Token, s.quoted_append] at h
  rw [readName, h]
  show (readStringBody (s.chars ++ '"' :: rest) >>= _) = _
  rw [s.readStringBody_append]
  rcases s.reading with fault | name
  · rfl
  · exact (map_eq_pure_bind (·, rest) (chooseName choices name)).symm

theorem exists_makes_readName (choices : List (String × α)) (room : Nat) :
    ∃ make, Makes (readName choices room) make := by
  refine exists_makes fun value => ?_
  by_cases hheads : '"' ∈ value.heads ∨ '\x7b' ∈ value.heads
  · cases value with
    | string s => exact ⟨_, readsAs_readName_string choices room s⟩
    | object members =>
        rcases room with _ | room
        · refine ⟨.error .tooDeep, fun text rest h _ => ?_⟩
          rw [Begins] at h
          obtain ⟨inner, close, hopen, -⟩ := h
          rw [readName, hopen]
          rfl
        · obtain ⟨x, hx⟩ := exists_readSoleName choices members
          refine ⟨x, fun text rest h _ => ?_⟩
          rw [Begins] at h
          obtain ⟨inner, close, hopen, hmembers, hclose⟩ := h
          rw [readName_object room hopen, hx inner close rest hmembers hclose]
    | null | bool b | number n | array items => exact absurd hheads (of_decide_eq_true rfl)
  · refine ⟨.error .expectedValue, fun text rest h _ => ?_⟩
    obtain ⟨c, more, hcons, hc⟩ := h.exists_head
    rw [readName, hcons]
    split
    · rename_i hsame
      cases hsame
    · rename_i hsame
      exact absurd (.inl ((List.cons.inj hsame).1 ▸ hc)) hheads
    · rename_i hsame
      exact absurd (.inr ((List.cons.inj hsame).1 ▸ hc)) hheads
    · rfl

end Names

end Switchboard.Json
