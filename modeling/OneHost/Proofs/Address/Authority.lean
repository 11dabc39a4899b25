import OneHost.Http.Uri
import OneHost.Proofs.Address.Characters
import OneHost.Proofs.Text.Bytes

/-!
# Addresses as authorities

The text of a socket address can always stand as the authority of a URI. What an authority is
checked for are its colons, its brackets and its percent signs: an address of version 6 has at most
seven colons, all of them between its brackets, and the port's colon is the only one outside.
-/

namespace OneHost

open Http.Authority (Scan isPlain)

/-! ## What pieces of an address do to a scan -/

/-- Going over a text takes one scan to another. -/
def Http.Authority.Takes (text : List Char) (before after : Scan) : Prop :=
  text.foldlM Scan.step before = .ok after

open Http.Authority (Takes)

namespace Http.Authority

variable {text more : List Char} {before middle after scan : Scan}

theorem Takes.append (first : Takes text before middle) (second : Takes more middle after) :
    Takes (text ++ more) before after := by
  rw [Takes, List.foldlM_append, first]
  exact second

/-- The characters that change a scan or end it are not plain. -/
theorem step_plain {c : Char} (plain : isPlain c = true) : scan.step c = .ok scan := by
  have differs {mark : Char} (special : isPlain mark = false) : c ≠ mark := by
    rintro rfl
    exact Bool.false_ne_true (special.symm.trans plain)
  rw [Scan.step, if_neg (differs (by decide)), if_neg (differs (by decide)),
    if_neg (differs (by decide)), if_neg (differs (by decide)), if_neg (differs (by decide)),
    if_pos plain]

theorem takes_plain (plain : text.all isPlain = true) : Takes text scan scan := by
  induction text with
  | nil => rfl
  | cons c rest ih =>
    rw [List.all_cons, Bool.and_eq_true] at plain
    rw [Takes, List.foldlM_cons, step_plain plain.1]
    exact ih plain.2

theorem takes_alphanum (alphanum : text.all Char.isAlphanum = true) : Takes text scan scan := by
  apply takes_plain
  rw [List.all_eq_true] at alphanum ⊢
  intro c inText
  simp [isPlain, alphanum c inText]

theorem takes_singleton {c : Char} (stepped : scan.step c = .ok after) : Takes [c] scan after := by
  rw [Takes, List.foldlM_cons, stepped]
  rfl

theorem takes_colon (few : scan.colons < 8) :
    Takes [':'] scan { scan with colons := scan.colons + 1 } :=
  takes_singleton (if_neg (Nat.not_le.mpr few))

/-- Whether an authority is complete is all that is left to be asked once the scan is over. -/
theorem check_of_takes (takes : Takes text {} scan) (complete : scan.isComplete = true)
    (lastIsNot : '@' ∉ text) : check text = .ok () := by
  have notAtEnd : (text.getLast? != some '@') = true := by
    rw [bne_iff_ne]
    intro atEnd
    exact lastIsNot (List.mem_of_getLast? atEnd)
  rw [check, takes]
  simp [complete, notAtEnd]

end Http.Authority

open Http.Authority (takes_plain takes_alphanum takes_singleton takes_colon)

variable {scan : Scan}

theorem takes_decimal (number : Nat) : Takes (Text.decimal number).toList scan scan :=
  takes_alphanum (isAlphanum_decimal number)

theorem Ipv4.takes_text (ip : Ipv4) : Takes ip.text.toList scan scan := by
  have dot : Takes ".".toList scan scan := takes_plain (by decide)
  simp only [text, String.toList_append]
  have first := (takes_decimal ip.a.toNat).append dot
  have second := (first.append (takes_decimal ip.b.toNat)).append dot
  have third := (second.append (takes_decimal ip.c.toNat)).append dot
  exact third.append (takes_decimal ip.d.toNat)

/-- By induction on the groups: there is a colon between any two of them. -/
theorem Ipv6.takes_groupsText (groups : List UInt16) (few : scan.colons + (groups.length - 1) ≤ 8) :
    Takes (groupsText groups).toList scan
      { scan with colons := scan.colons + (groups.length - 1) } := by
  induction groups generalizing scan with
  | nil => exact takes_plain rfl
  | cons group rest ih =>
    have own : Takes (groupText group).toList scan scan :=
      takes_alphanum (isAlphanum_groupText group)
    cases rest with
    | nil => simpa [groupsText] using own
    | cons next rest =>
      simp only [List.length_cons, Nat.add_sub_cancel] at few ih ⊢
      have colon := @takes_colon scan (by omega)
      have others := @ih { scan with colons := scan.colons + 1 } (by simp only; omega)
      simp only [Nat.add_assoc, Nat.add_comm 1 rest.length] at others
      simp only [groupsText, List.map_cons, String.intercalate_cons_cons, String.toList_append]
        at others ⊢
      exact (own.append colon).append others

/-- The zeros that are left out lie among the groups. -/
theorem Ipv6.longestZeros_le (start : Nat) (groups : List UInt16) :
    (longestZeros start groups).1 + (longestZeros start groups).2 ≤ start + groups.length := by
  induction groups generalizing start with
  | nil => exact Nat.le_refl _
  | cons group rest ih =>
    have within : leadingZeros (group :: rest) ≤ (group :: rest).length :=
      List.Sublist.length_le (List.takeWhile_sublist _)
    have others := ih (start + 1)
    simp only [longestZeros, List.length_cons] at within ⊢
    split
    · omega
    · simp only
      omega

theorem takes_gap (few : scan.colons + 2 ≤ 8) :
    Takes "::".toList scan { scan with colons := scan.colons + 2 } :=
  (takes_colon (by omega)).append (takes_colon (by simp only; omega))

/-- Zeros are left out only if there are two of them, so the two colons in their place are no more
than those that they take away. -/
theorem Ipv6.takes_text (ip : Ipv6) (none : scan.colons = 0) :
    ∃ colons, Takes ip.text.toList scan { scan with colons } := by
  unfold text
  split
  · rename_i inner _
    have letters {scan : Scan} : Takes "ffff".toList scan scan := takes_plain (by decide)
    have embedding : Takes "::ffff:".toList scan { scan with colons := scan.colons + 3 } :=
      ((takes_gap (by omega)).append letters).append (takes_colon (by simp only; omega))
    rw [String.toList_append]
    exact ⟨_, embedding.append inner.takes_text⟩
  · have count : ip.groups.toList.length = 8 := ip.groups.length_toList
    have within := longestZeros_le 0 ip.groups.toList
    dsimp only
    split
    · rename_i several
      generalize longestZeros 0 ip.groups.toList = zeros at *
      have lengthFront : (ip.groups.toList.take zeros.1).length = min zeros.1 8 := by
        rw [List.length_take, count]
      have lengthBack : (ip.groups.toList.drop (zeros.1 + zeros.2)).length =
          8 - (zeros.1 + zeros.2) := by
        rw [List.length_drop, count]
      have front := @takes_groupsText scan (ip.groups.toList.take zeros.1) (by omega)
      have back := front.append (takes_gap (by simp only; omega))
      rw [String.toList_append, String.toList_append]
      exact ⟨_, back.append (takes_groupsText (ip.groups.toList.drop (zeros.1 + zeros.2))
        (by simp only; omega))⟩
    · exact ⟨_, takes_groupsText ip.groups.toList (by omega)⟩

theorem SocketAddress.toList_text_ne_nil (socket : SocketAddress) : socket.text.toList ≠ [] := by
  rcases socket with ⟨ip, port⟩
  cases ip <;> simp [text]

/-- The text of a socket address is an authority. -/
theorem SocketAddress.check_text (socket : SocketAddress) :
    Http.Authority.check socket.text.toList = .ok () := by
  have noUser : '@' ∉ socket.text.toList := by
    intro inText
    have ofAddress := List.all_eq_true.mp socket.isAddressChar_text '@' inText
    exact absurd ofAddress (by decide)
  rcases socket with ⟨ip, port⟩
  cases ip with
  | v4 address =>
    have colon : Takes ":".toList {} { colons := 1 } := takes_singleton rfl
    have whole := (address.takes_text.append colon).append (takes_decimal port.toNat)
    rw [← String.toList_append, ← String.toList_append] at whole
    exact Http.Authority.check_of_takes whole rfl noUser
  | v6 address =>
    have opening : Takes "[".toList {} { bracketOpened := true } := takes_singleton rfl
    rcases @Ipv6.takes_text { bracketOpened := true } address rfl with ⟨colons, inside⟩
    have closing : Takes "]:".toList { bracketOpened := true, colons }
        { bracketOpened := true, bracketClosed := true, colons := 1 } :=
      (takes_singleton rfl).append (takes_singleton rfl)
    have whole := ((opening.append inside).append closing).append (takes_decimal port.toNat)
    simp only [← String.toList_append] at whole
    exact Http.Authority.check_of_takes whole rfl noUser

/-! ## How long addresses are -/

theorem length_decimal_le {number digits : Nat} (positive : 0 < digits)
    (small : number < 10 ^ digits) : (Text.decimal number).length ≤ digits := by
  rw [Text.decimal, String.length_ofList]
  exact (Nat.length_toDigits_le_iff (by decide) positive).mpr small

theorem length_decimal_octet (octet : UInt8) : (Text.decimal octet.toNat).length ≤ 3 :=
  length_decimal_le (by decide) (Nat.lt_trans octet.toNat_lt (by decide))

theorem Ipv4.length_text (ip : Ipv4) : ip.text.length ≤ 15 := by
  have a := length_decimal_octet ip.a
  have b := length_decimal_octet ip.b
  have c := length_decimal_octet ip.c
  have d := length_decimal_octet ip.d
  have dot : ".".length = 1 := rfl
  simp only [text, String.length_append, dot]
  omega

theorem Ipv6.length_groupText (group : UInt16) : (groupText group).length ≤ 4 := by
  rw [groupText, String.length_ofList]
  exact (Nat.length_toDigits_le_iff (by decide) (by decide)).mpr group.toNat_lt

theorem Ipv6.length_groupsText (groups : List UInt16) :
    (groupsText groups).length ≤ 5 * groups.length := by
  induction groups with
  | nil => exact Nat.le_refl _
  | cons group rest ih =>
    have own := length_groupText group
    cases rest with
    | nil => simpa [groupsText] using Nat.le_succ_of_le own
    | cons next rest =>
      have colon : ":".length = 1 := rfl
      simp only [groupsText, List.map_cons, List.length_cons] at ih ⊢
      rw [String.intercalate_cons_cons, String.length_append, String.length_append, colon]
      omega

theorem Ipv6.length_text (ip : Ipv6) : ip.text.length ≤ 42 := by
  have count : ip.groups.toList.length = 8 := ip.groups.length_toList
  unfold text
  split
  · rename_i inner _
    have embedding : "::ffff:".length = 7 := rfl
    have rest := inner.length_text
    rw [String.length_append]
    omega
  · dsimp only
    split
    · rename_i several
      have gap : "::".length = 2 := rfl
      generalize longestZeros 0 ip.groups.toList = zeros at *
      have front := length_groupsText (ip.groups.toList.take zeros.1)
      have back := length_groupsText (ip.groups.toList.drop (zeros.1 + zeros.2))
      rw [List.length_take, count] at front
      rw [List.length_drop, count] at back
      rw [String.length_append, String.length_append, gap]
      omega
    · have all := length_groupsText ip.groups.toList
      omega

theorem isAscii_of_isAddressChar {text : List Char} (ofAddress : text.all isAddressChar = true) :
    Text.IsAscii text := by
  intro c inText
  have kind := List.all_eq_true.mp ofAddress c inText
  simp only [isAddressChar, Bool.or_eq_true, decide_eq_true_eq] at kind
  rcases kind with (((alphanum | rfl) | rfl) | rfl) | rfl
  · exact Text.toNat_lt_of_isAlphanum alphanum
  all_goals decide

theorem SocketAddress.utf8ByteSize_text (socket : SocketAddress) :
    socket.text.utf8ByteSize ≤ 50 := by
  rw [← String.ofList_toList (s := socket.text),
    Text.utf8ByteSize_of_ascii (isAscii_of_isAddressChar socket.isAddressChar_text),
    String.length_toList]
  rcases socket with ⟨ip, port⟩
  have number : (Text.decimal port.toNat).length ≤ 5 :=
    length_decimal_le (by decide) (Nat.lt_trans port.toNat_lt (by decide))
  cases ip with
  | v4 address =>
    have host := address.length_text
    have colon : ":".length = 1 := rfl
    simp only [text, String.length_append, colon]
    omega
  | v6 address =>
    have host := address.length_text
    have opening : "[".length = 1 := rfl
    have closing : "]:".length = 2 := rfl
    simp only [text, String.length_append, opening, closing]
    omega

end OneHost
