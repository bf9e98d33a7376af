import ContentNode.Config.SocketAddress
import ContentNode.Proofs.Number.Digits

/-!
# Reading socket addresses back

Every socket address is read back from its text.  The groups that were left out are zeros, and
as many as are missing.
-/

namespace ContentNode.SocketAddress

variable {radix n limit : Nat} {c : Char} {s ds rest : List Char} {gs : List UInt16}
  {first : Bool}

/-! ### Numbers -/

theorem digit?_digitChar_ten : ∀ d < 10, digit? 10 d.digitChar = some d := by decide

theorem digit?_digitChar_sixteen : ∀ d < 16, digit? 16 d.digitChar = some d := by decide

/-- A text that does not go on a number. -/
def Ends (radix : Nat) (rest : List Char) : Prop := ∀ c ∈ rest.head?, digit? radix c = none

theorem ends_nil : Ends radix [] := nofun

theorem ends_cons (foreign : digit? radix c = none) : Ends radix (c :: rest) := by
  rintro _ ⟨⟩
  exact foreign

theorem takeWhile_of_ends (ends : Ends radix rest) :
    rest.takeWhile (fun c => (digit? radix c).isSome) = [] ∧
      rest.dropWhile (fun c => (digit? radix c).isSome) = rest := by
  cases rest with
  | nil => exact ⟨rfl, rfl⟩
  | cons c rest =>
    have foreign := ends c rfl
    exact ⟨List.takeWhile_cons_of_neg (by simp [foreign]),
      List.dropWhile_cons_of_neg (by simp [foreign])⟩

/-- Where no digit stands, there is no number. -/
theorem number_of_ends (ends : Ends radix rest) (accept : List Char → Nat → Bool) :
    number radix accept rest = none := by
  rw [number, (takeWhile_of_ends ends).1, if_neg (by simp)]

/-- A number is read back from its digits if it is accepted. -/
theorem number_toDigits (several : 1 < radix)
    (digits : ∀ d < radix, digit? radix d.digitChar = some d) (ends : Ends radix rest)
    {accept : List Char → Nat → Bool} (accepted : accept (Nat.toDigits radix n) n = true) :
    number radix accept (Nat.toDigits radix n ++ rest) = some (n, rest) := by
  have all : ∀ c ∈ Nat.toDigits radix n, (digit? radix c).isSome = true := fun c member =>
    of_mem_toDigits (P := fun c => (digit? radix c).isSome = true) several
      (fun d small => by rw [digits d small]; rfl) member
  have value : digitsValue radix (Nat.toDigits radix n) = n :=
    foldl_toDigits several (fun d small => by rw [digits d small]; rfl) n
  rw [number, List.takeWhile_append_of_pos all, List.dropWhile_append_of_pos all,
    (takeWhile_of_ends ends).1, (takeWhile_of_ends ends).2, List.append_nil]
  simp only [value]
  rw [if_pos ⟨Nat.toDigits_ne_nil, accepted⟩]

/-- A number with a bound is read back. -/
theorem number_decimal {bound : Nat} (small : n < bound) (ends : Ends 10 rest) :
    number 10 (fun _ value => value < bound) (decimal n ++ rest) = some (n, rest) :=
  number_toDigits (by decide) digit?_digitChar_ten ends (decide_eq_true small)

theorem octet_decimal (b : UInt8) (ends : Ends 10 rest) :
    octet (decimal b.toNat ++ rest) = some (b, rest) := by
  have small := b.toNat_lt
  have short : (Nat.toDigits 10 b.toNat).length ≤ 3 :=
    (Nat.length_toDigits_le_iff (by decide) (by decide)).mpr (by omega)
  have noZero : (Nat.toDigits 10 b.toNat).length == 1 ∨
      (Nat.toDigits 10 b.toNat).head? != some '0' := by
    rcases Nat.eq_zero_or_pos b.toNat with zero | positive
    · rw [zero]
      exact .inl rfl
    · obtain ⟨c, cs, same, other⟩ := head_toDigits positive
      rw [same]
      exact .inr (by simpa using other)
  rw [octet, decimal, number_toDigits (by decide) digit?_digitChar_ten ends]
  · simp
  · simp only [Bool.and_eq_true, Bool.or_eq_true, decide_eq_true_eq]
    exact ⟨⟨short, noZero⟩, small⟩

theorem readGroup_group (g : UInt16) (ends : Ends 16 rest) :
    readGroup (group g ++ rest) = some (g, rest) := by
  have small := g.toNat_lt
  have short : (Nat.toDigits 16 g.toNat).length ≤ 4 :=
    (Nat.length_toDigits_le_iff (by decide) (by decide)).mpr (by omega)
  rw [readGroup, group, number_toDigits (by decide) digit?_digitChar_sixteen ends
    (decide_eq_true short)]
  simp

theorem expect_self (c : Char) (s : List Char) : expect c (c :: s) = some s := if_pos rfl

theorem expect_of_ne (other : s.head? ≠ some c) : expect c s = none := by
  cases s with
  | nil => rfl
  | cons d s => exact if_neg fun same => other (congrArg some same.symm)

theorem readIpv4_writeIpv4 (ip : Ipv4) (ends : Ends 10 rest) :
    readIpv4 (writeIpv4 ip ++ rest) = some (ip, rest) := by
  have dot (s : List Char) : Ends 10 ('.' :: s) := ends_cons rfl
  simp only [writeIpv4, List.append_assoc, List.cons_append]
  simp only [readIpv4, octet_decimal ip.a (dot _), octet_decimal ip.b (dot _),
    octet_decimal ip.c (dot _), octet_decimal ip.d ends, expect_self, Option.bind_eq_bind,
    Option.bind_some]
  rfl

/-! ### Groups -/

theorem ends_ten_of_sixteen (ends : Ends 16 rest) : Ends 10 rest := by
  intro c head
  have foreign := ends c head
  unfold digit? at foreign ⊢
  rw [Option.filter_eq_none_iff] at foreign ⊢
  intro value known small
  have := foreign value known
  simp only [decide_eq_true_eq] at this small
  omega

/-- What is left of digits and what follows them begins with no dot. -/
theorem head_dropWhile {p : Char → Bool} (digits : ∀ c ∈ ds, c ≠ '.')
    (stop : ∀ c ∈ rest.head?, p c = false) (noDot : rest.head? ≠ some '.') :
    ((ds ++ rest).dropWhile p).head? ≠ some '.' := by
  induction ds with
  | nil =>
    cases rest with
    | nil => simp
    | cons c rest =>
      rw [List.nil_append, List.dropWhile_cons_of_neg (by simp [stop c rfl])]
      exact noDot
  | cons c ds ih =>
    rw [List.cons_append]
    cases taken : p c with
    | true =>
      rw [List.dropWhile_cons_of_pos taken]
      exact ih fun d member => digits d (List.mem_cons_of_mem c member)
    | false =>
      rw [List.dropWhile_cons_of_neg (by simp [taken])]
      intro same
      exact digits c List.mem_cons_self (Option.some.inj same)

/-- A number is followed by what its digits leave. -/
theorem rest_of_octet {b : UInt8} (read : octet s = some (b, rest)) :
    rest = s.dropWhile fun c => (digit? 10 c).isSome := by
  obtain ⟨⟨n, left⟩, number_, same⟩ := Option.map_eq_some_iff.mp read
  obtain ⟨-, rfl⟩ := Prod.mk.inj same
  unfold number at number_
  dsimp only at number_
  split at number_
  · exact (Prod.mk.inj (Option.some.inj number_)).2.symm
  · contradiction

/-- A group is no beginning of a version 4 address. -/
theorem readIpv4_group (g : UInt16) (ends : Ends 16 rest) (noDot : rest.head? ≠ some '.') :
    readIpv4 (group g ++ rest) = none := by
  have digits : ∀ c ∈ group g, c ≠ '.' := fun c member =>
    of_mem_toDigits (P := (· ≠ '.')) (by decide) (by decide) member
  unfold readIpv4
  cases read : octet (group g ++ rest) with
  | none => rfl
  | some number =>
    obtain ⟨b, left⟩ := number
    -- Digits of radix ten may begin the group, but no dot follows them.
    have after : left.head? ≠ some '.' := by
      rw [rest_of_octet read]
      refine head_dropWhile digits (fun c head => ?_) noDot
      rw [ends_ten_of_sixteen ends c head]
      rfl
    simp only [Option.bind_eq_bind, Option.bind_some, expect_of_ne after, Option.bind_none]

/-- What follows groups: it neither goes on the last one nor begins another one. -/
structure Stops (rest : List Char) : Prop where
  ends : Ends 16 rest
  noDot : rest.head? ≠ some '.'
  reads : ∀ limit, readGroups limit false rest = ([], false, rest)

/-- A closing bracket and a percent sign end an address. -/
theorem stops_of_ne_colon (ends : Ends 16 rest) (noDot : rest.head? ≠ some '.')
    (noColon : rest.head? ≠ some ':') : Stops rest where
  ends := ends
  noDot := noDot
  reads limit := by
    cases limit with
    | zero => rfl
    | succ limit => rw [readGroups, separator, if_neg (by decide), expect_of_ne noColon]

/-- Where neither an address nor a group begins, no groups are read. -/
theorem readGroups_of_none (noIpv4 : readIpv4 s = none) (noGroup : readGroup s = none)
    (limit : Nat) :
    readGroups limit true s = ([], false, s) ∧
      readGroups limit false (':' :: s) = ([], false, ':' :: s) := by
  cases limit with
  | zero => exact ⟨rfl, rfl⟩
  | succ limit =>
    constructor
    · rw [readGroups, separator, if_pos rfl]
      simp only [noIpv4, noGroup, ite_self]
    · rw [readGroups, separator, if_neg (by decide), expect_self]
      simp only [noIpv4, noGroup, ite_self]

theorem readGroups_colon (limit : Nat) (rest : List Char) :
    readGroups limit true (':' :: rest) = ([], false, ':' :: rest) ∧
      readGroups limit false (':' :: ':' :: rest) = ([], false, ':' :: ':' :: rest) :=
  readGroups_of_none rfl rfl limit

theorem stops_colons (rest : List Char) : Stops (':' :: ':' :: rest) where
  ends := ends_cons rfl
  noDot := by simp
  reads limit := (readGroups_colon limit rest).2

/-- One group and those after it. -/
theorem readGroups_group (g : UInt16) (limit : Nat) (ends : Ends 16 rest)
    (noDot : rest.head? ≠ some '.') :
    readGroups (limit + 1) true (group g ++ rest) =
        (g :: (readGroups limit false rest).1, (readGroups limit false rest).2) ∧
      readGroups (limit + 1) false (':' :: (group g ++ rest)) =
        (g :: (readGroups limit false rest).1, (readGroups limit false rest).2) := by
  have noIpv4 := readIpv4_group g ends noDot
  constructor
  · rw [readGroups, separator, if_pos rfl]
    simp only [noIpv4, readGroup_group g ends, ite_self]
  · rw [readGroups, separator, if_neg (by decide), expect_self]
    simp only [noIpv4, readGroup_group g ends, ite_self]

/-- Groups are read back up to what ends them. -/
theorem readGroups_writeGroups (gs : List UInt16) (g : UInt16) (short : gs.length ≤ limit)
    (stops : Stops rest) :
    readGroups (limit + 1) true (writeGroups (g :: gs) ++ rest) = (g :: gs, false, rest) ∧
      readGroups (limit + 1) false (':' :: (writeGroups (g :: gs) ++ rest)) =
        (g :: gs, false, rest) := by
  induction gs generalizing g limit with
  | nil =>
    have read := readGroups_group g limit stops.ends stops.noDot
    rw [stops.reads] at read
    exact read
  | cons h gs ih =>
    cases limit with
    | zero => contradiction
    | succ limit =>
      have others := (ih h (Nat.le_of_succ_le_succ short)).2
      have written : writeGroups (g :: h :: gs) ++ rest =
          group g ++ ':' :: (writeGroups (h :: gs) ++ rest) := by
        rw [writeGroups, List.append_assoc, List.cons_append]
        nofun
      have colon : Ends 16 (':' :: (writeGroups (h :: gs) ++ rest)) := ends_cons rfl
      have read := readGroups_group g (limit + 1) colon (by simp)
      rw [others] at read
      rw [written]
      exact read

/-- As many groups as are written are read, none at all included. -/
theorem readGroups_true (gs : List UInt16) (short : gs.length ≤ limit) (stops : Stops rest)
    (empty : ∀ limit, readGroups limit true rest = ([], false, rest)) :
    readGroups limit true (writeGroups gs ++ rest) = (gs, false, rest) := by
  cases gs with
  | nil => exact empty limit
  | cons g gs =>
    cases limit with
    | zero => contradiction
    | succ limit => exact (readGroups_writeGroups gs g (Nat.le_of_succ_le_succ short) stops).1

theorem ofGroups?_toList (ip : Ipv6) : ofGroups? ip.groups.toList = some ip := by
  rw [ofGroups?, dif_pos ip.groups.length_toList]
  rfl

/-! ### Zeros that are left out -/

theorem leadingZeros_cons (g : UInt16) (gs : List UInt16) :
    leadingZeros (g :: gs) = if g = 0 then leadingZeros gs + 1 else 0 := by
  unfold leadingZeros
  rw [List.takeWhile_cons]
  by_cases zero : g = 0
  · rw [if_pos zero, if_pos (beq_iff_eq.mpr zero), List.length_cons]
  · rw [if_neg zero, if_neg (by simpa using zero), List.length_nil]

theorem leadingZeros_spec (gs : List UInt16) :
    gs = List.replicate (leadingZeros gs) 0 ++ gs.drop (leadingZeros gs) := by
  induction gs with
  | nil => rfl
  | cons g gs ih =>
    rw [leadingZeros_cons]
    split
    next zero =>
      rw [zero, List.replicate_succ, List.cons_append, List.drop_succ_cons, ← ih]
    next => rfl

/-- The zeros that may be left out stand where they are said to be. -/
theorem longestZeros_spec (gs : List UInt16) :
    gs = gs.take (longestZeros gs).1 ++ (List.replicate (longestZeros gs).2 0 ++
      gs.drop ((longestZeros gs).1 + (longestZeros gs).2)) := by
  induction gs with
  | nil => rfl
  | cons g gs ih =>
    rw [longestZeros]
    dsimp only
    split
    · rw [List.take_zero, List.nil_append, Nat.zero_add]
      exact leadingZeros_spec (g :: gs)
    · rw [Nat.add_right_comm, List.take_succ_cons, List.drop_succ_cons, List.cons_append, ← ih]

/-! ### Version 6 addresses -/

/-- What follows an address between brackets. -/
structure Closes (rest : List Char) : Prop where
  stops : Stops rest
  empty : ∀ limit, readGroups limit true rest = ([], false, rest)

/-- The groups on both sides of the zeros that were left out. -/
theorem readIpv6_colons (head : List UInt16) {tail : List UInt16} {ip : Ipv6}
    {endsInIpv4 : Bool}
    (short : head.length < 8) (more : List Char)
    (after : readGroups (7 - head.length) true more = (tail, endsInIpv4, rest))
    (whole : ofGroups? (head ++ List.replicate (8 - head.length - tail.length) 0 ++ tail) =
      some ip) :
    readIpv6 (writeGroups head ++ ':' :: ':' :: more) = some (ip, rest) := by
  have before : readGroups 8 true (writeGroups head ++ ':' :: ':' :: more) =
      (head, false, ':' :: ':' :: more) :=
    readGroups_true head (Nat.le_of_lt short) (stops_colons more) fun limit =>
      (readGroups_colon limit (':' :: more)).1
  unfold readIpv6
  rw [before]
  simp only [Nat.ne_of_lt short, if_false, Bool.false_eq_true, expect_self, Option.bind_eq_bind,
    Option.bind_some, after, whole]
  rfl

theorem readIpv6_groups (ip : Ipv6) (closes : Closes rest) :
    readIpv6 (writeIpv6Groups ip.groups.toList ++ rest) = some (ip, rest) := by
  have eight := ip.groups.length_toList
  have whole := ofGroups?_toList ip
  generalize ip.groups.toList = gs at eight whole ⊢
  have spec := longestZeros_spec gs
  unfold writeIpv6Groups
  generalize longestZeros gs = zeros at spec ⊢
  obtain ⟨start, length⟩ := zeros
  dsimp only at spec ⊢
  split
  next several =>
    have lengths := congrArg List.length spec
    rw [List.length_append, List.length_append, List.length_replicate, eight] at lengths
    have fits : (gs.drop (start + length)).length ≤ 7 - (gs.take start).length := by omega
    have after := readGroups_true (gs.drop (start + length)) fits closes.stops closes.empty
    have zeros : 8 - (gs.take start).length - (gs.drop (start + length)).length = length := by
      omega
    rw [List.append_assoc, List.append_assoc]
    refine readIpv6_colons (gs.take start) (by omega) _ after ?_
    rw [zeros, List.append_assoc, ← spec]
    exact whole
  next =>
    unfold readIpv6
    rw [readGroups_true gs (Nat.le_of_eq eight) closes.stops closes.empty]
    simp only [eight, if_true, whole]
    rfl

/-- Two bytes of a group give it back. -/
theorem group_of_bytes (g : UInt16) :
    (g >>> 8).toUInt8.toUInt16 * 256 + g.toUInt8.toUInt16 = g := by
  have small := g.toNat_lt
  have high : (g >>> 8).toNat = g.toNat / 256 := by
    rw [UInt16.toNat_shiftRight, Nat.shiftRight_eq_div_pow]
    rfl
  rw [← UInt16.toNat_inj, UInt16.toNat_add, UInt16.toNat_mul, UInt8.toNat_toUInt16,
    UInt16.toNat_toUInt8, UInt8.toNat_toUInt16, UInt16.toNat_toUInt8, high,
    show (256 : UInt16).toNat = 256 from rfl]
  omega

/-- The version 4 address of the last two groups. -/
theorem readGroups_ipv4 (ip : Ipv4) (ends : Ends 10 rest) (limit : Nat) :
    readGroups (limit + 2) false (':' :: (writeIpv4 ip ++ rest)) = (groupsOf ip, true, rest) := by
  rw [readGroups, separator, if_neg (by decide), expect_self]
  simp only [Nat.succ_ne_zero, if_false, readIpv4_writeIpv4 ip ends]

/-- An address that stands for a version 4 address. -/
theorem readIpv6_mapped {ip : Ipv6} {high low : UInt16}
    (mapped : ip.groups.toList = [0, 0, 0, 0, 0, 0xffff, high, low]) (closes : Closes rest) :
    readIpv6 ([':', ':', 'f', 'f', 'f', 'f', ':'] ++
      writeIpv4 ⟨(high >>> 8).toUInt8, high.toUInt8, (low >>> 8).toUInt8, low.toUInt8⟩ ++ rest) =
        some (ip, rest) := by
  have whole := ofGroups?_toList ip
  have ipv4 := readGroups_ipv4
    ⟨(high >>> 8).toUInt8, high.toUInt8, (low >>> 8).toUInt8, low.toUInt8⟩
    (ends_ten_of_sixteen closes.stops.ends) 4
  generalize writeIpv4 _ = text at ipv4 ⊢
  have colon : Ends 16 (':' :: (text ++ rest)) := ends_cons rfl
  have after := (readGroups_group 0xffff 6 colon (by simp)).1
  rw [ipv4, groupsOf, group_of_bytes, group_of_bytes] at after
  refine readIpv6_colons [] (by decide) _ after ?_
  rw [mapped] at whole
  exact whole

/-- A version 6 address is read back up to what closes it. -/
theorem readIpv6_writeIpv6 (ip : Ipv6) (closes : Closes rest) :
    readIpv6 (writeIpv6 ip ++ rest) = some (ip, rest) := by
  unfold writeIpv6
  split
  next high low mapped => exact readIpv6_mapped mapped closes
  next => exact readIpv6_groups ip closes

/-! ### Addresses -/

theorem readPort_decimal (port : UInt16) :
    readPort (':' :: decimal port.toNat) = some (port, []) := by
  have read := number_decimal port.toNat_lt (ends_nil : Ends 10 [])
  rw [List.append_nil] at read
  rw [readPort, expect_self]
  simp only [Option.bind_eq_bind, Option.bind_some, UInt16.size, read]
  simp

/-- A bracket and a percent sign close an address. -/
theorem closes_cons (foreign : digit? 16 c = none) (noDot : c ≠ '.') (noColon : c ≠ ':')
    (rest : List Char) : Closes (c :: rest) := by
  have noIpv4 : readIpv4 (c :: rest) = none := by
    have ends : Ends 10 (c :: rest) := ends_ten_of_sixteen (ends_cons foreign)
    rw [readIpv4, octet, number_of_ends ends]
    rfl
  have noGroup : readGroup (c :: rest) = none := by
    rw [readGroup, number_of_ends (ends_cons foreign)]
    rfl
  exact ⟨stops_of_ne_colon (ends_cons foreign) (by simpa using noDot) (by simpa using noColon),
    fun limit => (readGroups_of_none noIpv4 noGroup limit).1⟩

theorem readScope_write (scope : UInt32) (rest : List Char) :
    readScope ((if scope = 0 then [] else '%' :: decimal scope.toNat) ++ ']' :: rest) =
      (scope, ']' :: rest) := by
  split
  next zero =>
    rw [zero]
    rfl
  next =>
    have read := number_decimal scope.toNat_lt (ends_cons rfl : Ends 10 (']' :: rest))
    rw [List.cons_append, readScope, expect_self]
    simp only [Option.bind_eq_bind, Option.bind_some, UInt32.size, read]
    simp

theorem closes_scope (scope : UInt32) (rest : List Char) :
    Closes ((if scope = 0 then [] else '%' :: decimal scope.toNat) ++ ']' :: rest) := by
  split
  · exact closes_cons rfl (by decide) (by decide) rest
  · exact closes_cons rfl (by decide) (by decide) _

/-- Every socket address is read back from its text. -/
theorem ofText?_toText (address : SocketAddress) : ofText? address.toText = some address := by
  rw [ofText?, toText, String.toList_ofList]
  cases address with
  | v4 ip port =>
    have read : readV4 (write (.v4 ip port)) = some (.v4 ip port, []) := by
      rw [readV4, write, readIpv4_writeIpv4 ip (ends_cons rfl)]
      simp only [Option.bind_eq_bind, Option.bind_some, readPort_decimal]
      rfl
    rw [read]
    rfl
  | v6 ip scope port =>
    have noV4 : readV4 (write (.v6 ip scope port)) = none := rfl
    have read : readV6 (write (.v6 ip scope port)) = some (.v6 ip scope port, []) := by
      have closes := closes_scope scope (':' :: decimal port.toNat)
      rw [readV6, write, List.cons_append, List.cons_append, List.append_assoc, expect_self]
      simp only [Option.bind_eq_bind, Option.bind_some, readIpv6_writeIpv6 ip closes,
        readScope_write, expect_self, readPort_decimal]
      rfl
    rw [noV4, read]
    rfl

theorem parse_toText (address : SocketAddress) : parse address.toText = .ok address := by
  rw [parse, ofText?_toText]

end ContentNode.SocketAddress
