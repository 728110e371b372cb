import ListQuery.Proofs.Accessor

/-!
# The grammar of accessors

An accessor is a member, perhaps with a receiver before it, a cast behind it
and a closure around all of that, and with blanks between these parts. The
accessors are the texts that are read, save one: a member behind a receiver is
no member if it is spelled like the word of a cast and has spaces around it.
-/

namespace ListQuery

open Text (Blanks Passes Trimmed compact_of_isAsciiIdentifier isAsciiIdentifier isBlank)

namespace Accessor

-- ---------------------------------------------------------------------------
-- The parts of an accessor
-- ---------------------------------------------------------------------------

structure Gap where
  chars : List Char
  blanks : Blanks chars

structure Name where
  chars : List Char
  isIdentifier : isAsciiIdentifier chars = true

/-- What opens a closure, `|p|` or `p =>`. -/
inductive Head where
  | bars (before : Gap) (parameter : Name) (after : Gap)
  | arrow (parameter : Name) (after : Gap)

def Head.text : Head → List Char
  | bars before parameter after => '|' :: (before.chars ++ (parameter.chars ++ (after.chars ++ ['|'])))
  | arrow parameter after => parameter.chars ++ (after.chars ++ ['=', '>'])

structure Receiver where
  name : Name
  before : Gap
  after : Gap

def Receiver.text (r : Receiver) : List Char :=
  r.name.chars ++ (r.before.chars ++ '.' :: r.after.chars)

structure Read where
  receiver : Option Receiver
  member : Name

def Read.text (r : Read) : List Char :=
  r.receiver.elim [] Receiver.text ++ r.member.chars

/-- The word of a cast has one space on either side at least. -/
structure Cast where
  before : Gap
  after : Gap
  type : Name

def Cast.text (c : Cast) : List Char :=
  c.before.chars ++ ([' ', 'a', 's', ' '] ++ (c.after.chars ++ c.type.chars))

structure Expression where
  left : Gap
  head : Option Head
  gap : Gap
  read : Read
  cast : Option Cast
  right : Gap

namespace Expression

def operand (e : Expression) : List Char :=
  e.read.text ++ e.cast.elim [] Cast.text

def text (e : Expression) : List Char :=
  e.left.chars ++ (e.head.elim [] Head.text ++ (e.gap.chars ++ (e.operand ++ e.right.chars)))

/-- A member behind a receiver that looks like the word of a cast: it is `as`
with a space right before and right behind it. -/
def Shadowed (e : Expression) : Prop :=
  e.read.member.chars = ['a', 's'] ∧
    (∃ r ∈ e.read.receiver, r.after.chars.getLast? = some ' ') ∧
    ∃ c ∈ e.cast, c.text.head? = some ' '

end Expression

-- ---------------------------------------------------------------------------
-- Names and gaps
-- ---------------------------------------------------------------------------

theorem Name.not_mem (name : Name) {c : Char} (hc : Text.isAsciiContinue c = false) : c ∉ name.chars :=
  not_mem_of_isAsciiIdentifier name.isIdentifier hc

theorem Name.trimmed (name : Name) : Trimmed name.chars :=
  (compact_of_isAsciiIdentifier name.isIdentifier).trimmed

theorem Name.ne_nil (name : Name) : name.chars ≠ [] := by
  intro h
  have hname := name.isIdentifier
  rw [h] at hname
  cases hname

theorem Gap.not_mem (gap : Gap) {c : Char} (hc : isBlank c = false) : c ∉ gap.chars := by
  intro hmem
  rw [gap.blanks c hmem] at hc
  cases hc

theorem Name.not_mem_append (name : Name) (gap : Gap) {c : Char} (hname : Text.isAsciiContinue c = false)
    (hgap : isBlank c = false) : c ∉ name.chars ++ gap.chars :=
  List.not_mem_append (name.not_mem hname) (gap.not_mem hgap)

def Gap.none : Gap := ⟨[], nofun⟩

def Gap.append (first second : Gap) : Gap :=
  ⟨first.chars ++ second.chars, Text.blanks_append.mpr ⟨first.blanks, second.blanks⟩⟩

theorem exists_gaps_trim (cs : List Char) :
    ∃ left right : Gap, cs = left.chars ++ (Text.trim cs ++ right.chars) := by
  obtain ⟨left, right, hleft, hright, hcs⟩ := Text.exists_eq_surrounded_trim cs
  exact ⟨⟨left, hleft⟩, ⟨right, hright⟩, hcs⟩

theorem trim_between (left : Gap) {cs : List Char} (h : Trimmed cs) (right : Gap) :
    Text.trim (left.chars ++ (cs ++ right.chars)) = cs := by
  rw [Text.trim_surrounded left.blanks right.blanks]
  exact Text.trim_eq_self_iff.mpr h

theorem identifier?_between (left : Gap) (name : Name) (right : Gap) :
    identifier? (left.chars ++ (name.chars ++ right.chars)) = some name.chars := by
  rw [identifier?, trim_between left name.trimmed right]
  exact if_pos name.isIdentifier

theorem exists_of_identifier? {cs chars : List Char} (h : identifier? cs = some chars) :
    ∃ (left : Gap) (name : Name) (right : Gap),
      name.chars = chars ∧ cs = left.chars ++ (name.chars ++ right.chars) := by
  unfold identifier? at h
  split at h
  · next hname =>
    cases h
    obtain ⟨left, right, hcs⟩ := exists_gaps_trim cs
    exact ⟨left, ⟨_, hname⟩, right, rfl, hcs⟩
  · cases h

-- ---------------------------------------------------------------------------
-- Reads
-- ---------------------------------------------------------------------------

theorem readMember_of_receiver (name : Name) (before : Gap) (rest : List Char) :
    readMember (name.chars ++ (before.chars ++ '.' :: rest)) = identifier? rest := by
  have hdot : '.' ∉ name.chars ++ before.chars := name.not_mem_append before (by decide) (by decide)
  have hreceiver := identifier?_between Gap.none name before
  simp only [Gap.none, List.nil_append] at hreceiver
  rw [readMember, ← List.append_assoc, Text.cut_append hdot]
  simp only [Option.bind_eq_bind, hreceiver, Option.bind_some]

theorem readMember_text (r : Read) : readMember r.text = some r.member.chars := by
  obtain ⟨receiver, member⟩ := r
  cases receiver with
  | none => exact readMember_of_isAsciiIdentifier member.isIdentifier
  | some r =>
    have hmember := identifier?_between r.after member Gap.none
    simp only [Gap.none, List.append_nil] at hmember
    simp only [Read.text, Option.elim_some, Receiver.text, List.append_assoc, List.cons_append]
    rw [readMember_of_receiver, hmember]

theorem exists_of_readMember {cs chars : List Char} (h : readMember cs = some chars) :
    ∃ (left : Gap) (r : Read) (right : Gap),
      r.member.chars = chars ∧ cs = left.chars ++ (r.text ++ right.chars) := by
  unfold readMember at h
  split at h
  · next before after hcut =>
    simp only [Option.bind_eq_bind, Option.bind_eq_some_iff] at h
    obtain ⟨_, hreceiver, hmember⟩ := h
    obtain ⟨left, name, gap, -, rfl⟩ := exists_of_identifier? hreceiver
    obtain ⟨other, member, right, hchars, rfl⟩ := exists_of_identifier? hmember
    refine ⟨left, ⟨some ⟨name, gap, other⟩, member⟩, right, hchars, ?_⟩
    rw [(Text.cut_eq_some hcut).1]
    simp [Read.text, Receiver.text]
  · split at h
    · next hname =>
      cases h
      exact ⟨Gap.none, ⟨none, ⟨_, hname⟩⟩, Gap.none, rfl, by simp [Gap.none, Read.text]⟩
    · cases h

-- ---------------------------------------------------------------------------
-- Casts
-- ---------------------------------------------------------------------------

/-- The word of a cast begins within a gap only with its last space. -/
theorem Gap.passes (gap : Gap) {rest : List Char}
    (h : gap.chars.getLast? = some ' ' → ¬ ['a', 's', ' '] <+: rest) :
    Passes [' ', 'a', 's', ' '] gap.chars rest := by
  obtain ⟨chars, blanks⟩ := gap
  induction chars with
  | nil => trivial
  | cons c chars ih =>
    refine ⟨fun hword => ?_, ih (fun d hd => blanks d (List.mem_cons_of_mem _ hd)) fun hlast => h ?_⟩
    · obtain ⟨rfl, hrest⟩ := List.cons_prefix_cons.mp hword
      cases chars with
      | nil => exact h rfl hrest
      | cons d chars =>
        obtain ⟨rfl, -⟩ := List.cons_prefix_cons.mp hrest
        exact absurd (blanks 'a' (List.mem_cons_of_mem _ List.mem_cons_self)) (by decide)
    · change chars.getLast? = some ' ' at hlast
      rw [List.getLast?_cons, hlast, Option.getD_some]

theorem Cast.isBlank_head_text (cast : Option Cast) :
    ∀ c ∈ (cast.elim [] Cast.text).head?, isBlank c = true := by
  intro c hc
  cases cast with
  | none => cases hc
  | some cast =>
    obtain ⟨⟨before, blanks⟩, after, type⟩ := cast
    cases before with
    | nil => obtain rfl := Option.some.inj hc; decide
    | cons d before =>
      obtain rfl := Option.some.inj hc
      exact blanks d List.mem_cons_self

theorem Name.eq_of_isPrefix (name : Name) {rest : List Char} (hrest : ∀ c ∈ rest.head?, isBlank c = true)
    (h : ['a', 's', ' '] <+: name.chars ++ rest) : name.chars = ['a', 's'] ∧ rest.head? = some ' ' := by
  have hspace : ' ' ∉ name.chars := name.not_mem (by decide)
  have hne := name.ne_nil
  match hname : name.chars with
  | [] => exact absurd hname hne
  | [c] =>
    rw [hname] at h
    obtain ⟨-, others, rfl⟩ := List.cons_prefix_cons.mp h
    exact absurd (hrest 's' rfl) (by decide)
  | [c, d] =>
    rw [hname] at h
    obtain ⟨rfl, hback⟩ := List.cons_prefix_cons.mp h
    obtain ⟨rfl, others, rfl⟩ := List.cons_prefix_cons.mp hback
    exact ⟨rfl, rfl⟩
  | c :: d :: space :: others =>
    rw [hname] at h hspace
    obtain ⟨-, hback⟩ := List.cons_prefix_cons.mp h
    obtain ⟨-, hback⟩ := List.cons_prefix_cons.mp hback
    obtain ⟨rfl, -⟩ := List.cons_prefix_cons.mp hback
    exact absurd (List.mem_cons_of_mem _ (List.mem_cons_of_mem _ List.mem_cons_self)) hspace

theorem Name.passes (name : Name) (rest : List Char) : Passes [' ', 'a', 's', ' '] name.chars rest :=
  Text.passes_of_not_mem (name.not_mem (by decide))

/-- The dot ends no word of a cast, so none begins in what stands before it. -/
theorem passes_receiver (name : Name) (before : Gap) (rest : List Char) :
    Passes [' ', 'a', 's', ' '] (name.chars ++ (before.chars ++ ['.'])) rest := by
  refine Text.passes_append.mpr ⟨name.passes _, Text.passes_append.mpr ⟨before.passes ?_, ?_⟩⟩
  · rintro - ⟨others, hothers⟩
    exact absurd (List.cons.inj hothers).1 (by decide)
  · exact Text.passes_of_not_mem (by decide)

namespace Expression

theorem passes_read {e : Expression} (h : ¬ e.Shadowed) :
    Passes [' ', 'a', 's', ' '] e.read.text (e.cast.elim [] Cast.text) := by
  unfold Shadowed at h
  obtain ⟨left, head, gap, ⟨receiver, member⟩, cast, right⟩ := e
  cases receiver with
  | none => exact member.passes _
  | some r =>
    have htext : (Read.mk (some r) member).text =
        (r.name.chars ++ (r.before.chars ++ ['.'])) ++ (r.after.chars ++ member.chars) := by
      simp [Read.text, Receiver.text]
    rw [htext]
    refine Text.passes_append.mpr ⟨passes_receiver _ _ _, Text.passes_append.mpr ⟨r.after.passes ?_, member.passes _⟩⟩
    intro hlast hword
    obtain ⟨hmember, hhead⟩ := member.eq_of_isPrefix (Cast.isBlank_head_text cast) hword
    refine h ⟨hmember, ⟨r, rfl, hlast⟩, ?_⟩
    cases cast with
    | none => cases hhead
    | some c => exact ⟨c, rfl, hhead⟩

end Expression

theorem trimmed_append {front back : List Char} (hfront : Trimmed front) (hne : front ≠ [])
    (hback : Trimmed back) (hne' : back ≠ []) (middle : List Char) : Trimmed (front ++ (middle ++ back)) := by
  obtain ⟨c, others, rfl⟩ := List.exists_cons_of_ne_nil hne
  rw [List.cons_append, ← List.append_assoc]
  exact Text.trimmed_cons_append (hfront.head c rfl) hback hne' _

theorem Read.trimmed_text (r : Read) : Trimmed r.text := by
  obtain ⟨receiver, member⟩ := r
  cases receiver with
  | none => exact member.trimmed
  | some r =>
    simpa [Read.text, Receiver.text] using
      trimmed_append r.name.trimmed r.name.ne_nil member.trimmed member.ne_nil (r.before.chars ++ '.' :: r.after.chars)

theorem Read.text_ne_nil (r : Read) : r.text ≠ [] :=
  List.append_ne_nil_of_right_ne_nil _ r.member.ne_nil

namespace Expression

theorem trimmed_operand (e : Expression) : Trimmed e.operand := by
  unfold operand
  cases e.cast with
  | none =>
    rw [Option.elim_none, List.append_nil]
    exact e.read.trimmed_text
  | some c =>
    simpa [Cast.text] using trimmed_append e.read.trimmed_text e.read.text_ne_nil c.type.trimmed c.type.ne_nil
      (c.before.chars ++ ([' ', 'a', 's', ' '] ++ c.after.chars))

theorem dropCast_operand {e : Expression} (h : ¬ e.Shadowed) : dropCast e.operand = some e.read.text := by
  have hread := Text.cutWord_append_of_passes (passes_read h)
  unfold operand dropCast
  rw [hread]
  cases e.cast with
  | none =>
    rw [Option.elim_none, List.append_nil]
    rfl
  | some c =>
    have hbefore : Passes [' ', 'a', 's', ' '] c.before.chars
        ([' ', 'a', 's', ' '] ++ (c.after.chars ++ c.type.chars)) :=
      c.before.passes fun _ hword => absurd (List.cons_prefix_cons.mp hword).1 (by decide)
    have htype := identifier?_between c.after c.type Gap.none
    have hinner := trim_between Gap.none e.read.trimmed_text c.before
    simp only [Gap.none, List.nil_append, List.append_nil] at htype hinner
    rw [Option.elim_some, Cast.text, Text.cutWord_append_of_passes hbefore, Text.cutWord_word_append (by decide)]
    simp only [Option.map_some, Option.bind_eq_bind, htype, Option.bind_some, List.append_nil, hinner]
    rfl

/-- What is left of a receiver when its member is taken for the word of a cast
has no member. -/
theorem readMember_shadowed {e : Expression} (h : e.Shadowed) : (dropCast e.operand).bind readMember = none := by
  obtain ⟨hmember, ⟨r, hreceiver, hlast⟩, c, hcast, hhead⟩ := h
  obtain ⟨gap, hgap⟩ := List.getLast?_eq_some_iff.mp hlast
  obtain ⟨back, hback⟩ := List.head?_eq_some_iff.mp hhead
  have hblanks : Blanks gap := (Text.blanks_append.mp (hgap ▸ r.after.blanks)).1
  have hoperand : e.operand =
      (r.name.chars ++ (r.before.chars ++ ['.'])) ++ (gap ++ ([' ', 'a', 's', ' '] ++ back)) := by
    rw [operand, Read.text, hmember, Option.mem_def.mp hreceiver, Option.mem_def.mp hcast, Option.elim_some,
      Option.elim_some, hback, Receiver.text, hgap]
    simp
  have hpasses : Passes [' ', 'a', 's', ' '] gap ([' ', 'a', 's', ' '] ++ back) :=
    Gap.passes ⟨gap, hblanks⟩ fun _ hword => absurd (List.cons_prefix_cons.mp hword).1 (by decide)
  have htrimmed : Trimmed (r.name.chars ++ (r.before.chars ++ ['.'])) :=
    trimmed_append r.name.trimmed r.name.ne_nil (by decide) (by decide) _
  have hinner := trim_between Gap.none htrimmed ⟨gap, hblanks⟩
  have hnone : readMember (r.name.chars ++ (r.before.chars ++ ['.'])) = none := readMember_of_receiver _ _ []
  rw [hoperand, dropCast, Text.cutWord_append_of_passes (passes_receiver _ _ _),
    Text.cutWord_append_of_passes hpasses, Text.cutWord_word_append (by decide)]
  simp only [Gap.none, List.nil_append] at hinner
  simp only [Option.map_some, List.append_nil, hinner]
  cases identifier? back with
  | none => rfl
  | some _ => exact hnone

end Expression

theorem exists_of_dropCast {cs read : List Char} (h : dropCast cs = some read) :
    ∃ (left : Gap) (cast : Option Cast) (right : Gap),
      cs = left.chars ++ (read ++ (cast.elim [] Cast.text ++ right.chars)) := by
  unfold dropCast at h
  split at h
  · next inner type hcut =>
    simp only [Option.bind_eq_bind, Option.bind_eq_some_iff] at h
    obtain ⟨_, htype, htrim⟩ := h
    obtain rfl := Option.some.inj htrim
    obtain ⟨after, name, right, -, rfl⟩ := exists_of_identifier? htype
    obtain ⟨left, before, hinner⟩ := exists_gaps_trim inner
    refine ⟨left, some ⟨before, after, name⟩, right, ?_⟩
    rw [Text.cutWord_eq_some hcut]
    conv_lhs => rw [hinner]
    simp [Cast.text]
  · cases h
    exact ⟨Gap.none, none, Gap.none, by simp [Gap.none]⟩

-- ---------------------------------------------------------------------------
-- Closures
-- ---------------------------------------------------------------------------

theorem Expression.equals_not_mem_operand (e : Expression) : '=' ∉ e.operand := by
  have hname (name : Name) : '=' ∉ name.chars := name.not_mem (by decide)
  have hgap (gap : Gap) : '=' ∉ gap.chars := gap.not_mem (by decide)
  unfold operand Read.text
  cases e.read.receiver <;> cases e.cast <;> simp [Receiver.text, Cast.text, hname, hgap]

theorem Name.head_ne_bar (name : Name) {rest others : List Char} : name.chars ++ rest ≠ '|' :: others := by
  obtain ⟨c, front, hname, hc, -⟩ := Text.isAsciiIdentifier_eq_true_iff.mp name.isIdentifier
  rw [hname]
  intro h
  obtain ⟨rfl, -⟩ := List.cons.inj h
  exact absurd hc (by decide)

theorem Expression.operand_ne_bar (e : Expression) {others : List Char} : e.operand ≠ '|' :: others := by
  unfold operand Read.text
  cases e.read.receiver with
  | none =>
    rw [Option.elim_none, List.nil_append]
    exact e.read.member.head_ne_bar
  | some r =>
    rw [Option.elim_some, Receiver.text, List.append_assoc, List.append_assoc]
    exact r.name.head_ne_bar

theorem Expression.operand_ne_nil (e : Expression) : e.operand ≠ [] :=
  List.append_ne_nil_of_left_ne_nil e.read.text_ne_nil _

section
variable {body : List Char} (hbody : Trimmed body)
include hbody

theorem Head.trimmed_text (head : Head) (gap : Gap) (hne : body ≠ []) :
    Trimmed (head.text ++ (gap.chars ++ body)) := by
  cases head with
  | bars before parameter after =>
    have hbar : Trimmed ['|'] := by decide
    simpa [Head.text] using trimmed_append hbar (List.cons_ne_nil _ _) hbody hne
      (before.chars ++ (parameter.chars ++ (after.chars ++ '|' :: gap.chars)))
  | arrow parameter after =>
    simpa [Head.text] using trimmed_append parameter.trimmed parameter.ne_nil hbody hne
      (after.chars ++ '=' :: '>' :: gap.chars)

theorem Head.openClosure_text (head : Head) (gap : Gap) :
    openClosure (head.text ++ (gap.chars ++ body)) = some body := by
  have htrim := trim_between gap hbody Gap.none
  simp only [Gap.none, List.append_nil] at htrim
  cases head with
  | bars before parameter after =>
    have hparameter := identifier?_between before parameter after
    have hbar : '|' ∉ before.chars ++ (parameter.chars ++ after.chars) :=
      List.not_mem_append (before.not_mem (by decide)) (parameter.not_mem_append after (by decide) (by decide))
    have htext : (Head.bars before parameter after).text ++ (gap.chars ++ body) =
        '|' :: ((before.chars ++ (parameter.chars ++ after.chars)) ++ '|' :: (gap.chars ++ body)) := by
      simp [Head.text]
    rw [htext, openClosure, Text.cut_append hbar]
    simp only [Option.bind_eq_bind, Option.bind_some, hparameter, htrim]
    rfl
  | arrow parameter after =>
    have hparameter := identifier?_between Gap.none parameter after
    simp only [Gap.none, List.nil_append] at hparameter
    have harrow : '=' ∉ parameter.chars ++ after.chars := parameter.not_mem_append after (by decide) (by decide)
    have htext : (Head.arrow parameter after).text ++ (gap.chars ++ body) =
        (parameter.chars ++ after.chars) ++ '=' :: (['>'] ++ (gap.chars ++ body)) := by
      simp [Head.text]
    have hcut := Text.cutWord_append harrow ['>'] (gap.chars ++ body)
    rw [htext, openClosure]
    · rw [hcut]
      simp only [Option.bind_eq_bind, Option.bind_some, hparameter, htrim]
      rfl
    · intro others hothers
      rw [List.append_assoc] at hothers
      exact absurd hothers parameter.head_ne_bar

end

theorem exists_of_openClosure {cs body : List Char} (h : openClosure cs = some body) :
    ∃ (left : Gap) (head : Option Head) (gap right : Gap),
      cs = left.chars ++ (head.elim [] Head.text ++ (gap.chars ++ (body ++ right.chars))) := by
  unfold openClosure at h
  split at h
  · next rest =>
    simp only [Option.bind_eq_bind, Option.bind_eq_some_iff] at h
    obtain ⟨⟨front, back⟩, hcut, _, hparameter, htrim⟩ := h
    obtain rfl := Option.some.inj htrim
    obtain ⟨before, parameter, after, -, rfl⟩ := exists_of_identifier? hparameter
    obtain ⟨gap, right, hback⟩ := exists_gaps_trim back
    refine ⟨Gap.none, some (.bars before parameter after), gap, right, ?_⟩
    rw [(Text.cut_eq_some hcut).1]
    conv_lhs => rw [hback]
    simp [Gap.none, Head.text]
  · split at h
    · next front back hcut =>
      simp only [Option.bind_eq_bind, Option.bind_eq_some_iff] at h
      obtain ⟨_, hparameter, htrim⟩ := h
      obtain rfl := Option.some.inj htrim
      obtain ⟨left, parameter, after, -, rfl⟩ := exists_of_identifier? hparameter
      obtain ⟨gap, right, hback⟩ := exists_gaps_trim back
      refine ⟨left, some (.arrow parameter after), gap, right, ?_⟩
      rw [Text.cutWord_eq_some hcut]
      conv_lhs => rw [hback]
      simp [Head.text]
    · cases h
      exact ⟨Gap.none, none, Gap.none, Gap.none, by simp [Gap.none]⟩

-- ---------------------------------------------------------------------------
-- Whole accessors
-- ---------------------------------------------------------------------------

theorem Expression.openClosure_trim_text (e : Expression) : openClosure (Text.trim e.text) = some e.operand := by
  unfold text
  cases e.head with
  | none =>
    have htrim := trim_between (e.left.append e.gap) e.trimmed_operand e.right
    simp only [Gap.append, List.append_assoc] at htrim
    rw [Option.elim_none, List.nil_append, htrim, openClosure]
    · rw [Text.cutWord_of_not_mem e.equals_not_mem_operand]
    · exact fun others h => e.operand_ne_bar h
  | some head =>
    have htrim := trim_between e.left (head.trimmed_text e.trimmed_operand e.gap e.operand_ne_nil) e.right
    simp only [List.append_assoc] at htrim
    rw [Option.elim_some, htrim]
    exact head.openClosure_text e.trimmed_operand e.gap

theorem Expression.member?_text (e : Expression) : member? e.text = (dropCast e.operand).bind readMember := by
  rw [member?, e.openClosure_trim_text]
  rfl

theorem exists_of_member? {cs chars : List Char} (h : member? cs = some chars) :
    ∃ e : Expression, e.text = cs ∧ e.read.member.chars = chars := by
  simp only [member?, Option.bind_eq_bind, Option.bind_eq_some_iff] at h
  obtain ⟨body, hopen, read, hcast, hread⟩ := h
  obtain ⟨left, right, hcs⟩ := exists_gaps_trim cs
  obtain ⟨left₁, head, gap₁, right₁, hopen⟩ := exists_of_openClosure hopen
  obtain ⟨left₂, cast, right₂, rfl⟩ := exists_of_dropCast hcast
  obtain ⟨left₃, r, right₃, hmember, rfl⟩ := exists_of_readMember hread
  -- The blanks around each part go to the gap on their side.
  cases cast with
  | none =>
    refine ⟨⟨left.append left₁, head, (gap₁.append left₂).append left₃, r, none,
      ((right₃.append right₂).append right₁).append right⟩, ?_, hmember⟩
    rw [hcs, hopen]
    simp [Expression.text, Expression.operand, Gap.append]
  | some c =>
    refine ⟨⟨left.append left₁, head, (gap₁.append left₂).append left₃, r,
      some { c with before := right₃.append c.before }, (right₂.append right₁).append right⟩, ?_, hmember⟩
    rw [hcs, hopen]
    simp [Expression.text, Expression.operand, Gap.append, Cast.text]

theorem member?_eq_some_iff {cs chars : List Char} :
    member? cs = some chars ↔ ∃ e : Expression, e.text = cs ∧ e.read.member.chars = chars ∧ ¬ e.Shadowed := by
  constructor
  · intro h
    obtain ⟨e, rfl, hmember⟩ := exists_of_member? h
    refine ⟨e, rfl, hmember, fun hshadowed => ?_⟩
    rw [e.member?_text, Expression.readMember_shadowed hshadowed] at h
    cases h
  · rintro ⟨e, rfl, rfl, hshadowed⟩
    rw [e.member?_text, Expression.dropCast_operand hshadowed, Option.bind_some, readMember_text]

end Accessor

-- ---------------------------------------------------------------------------
-- Declared fields
-- ---------------------------------------------------------------------------

variable {F : Type}

namespace Schema

/-- The field answers to the name, by its own name or by its member, in any case
of the letters, and none that is declared before it does. -/
def FirstToAnswer (S : Schema F) (name : List Char) (f : F) : Prop :=
  let answers (g : F) : Prop := sameName (S.name g).toList name = true ∨ sameName (S.member g).toList name = true
  ∃ before after, S.fields = before ++ f :: after ∧ answers f ∧ ∀ g ∈ before, ¬ answers g

theorem find?_eq_some_iff {S : Schema F} {name : List Char} {f : F} :
    S.fields.find? (fun g => sameName (S.name g).toList name || sameName (S.member g).toList name) = some f ↔
      S.FirstToAnswer name f := by
  rw [List.find?_eq_some_iff_append]
  simp only [FirstToAnswer, Bool.or_eq_true, Bool.not_eq_true', Bool.or_eq_false_iff, not_or, Bool.not_eq_true]
  constructor
  · rintro ⟨hf, before, after, hfields, hbefore⟩
    exact ⟨before, after, hfields, hf, hbefore⟩
  · rintro ⟨before, after, hfields, hf, hbefore⟩
    exact ⟨hf, before, after, hfields, hbefore⟩

theorem resolve_eq_error {S : Schema F} {expression : String} (h : ∀ f, S.resolve expression ≠ .ok f) :
    S.resolve expression = .error ⟨expression⟩ := by
  unfold resolve at h ⊢
  dsimp only at h ⊢
  split
  · next f hf => exact absurd (by rw [hf]) (h f)
  · rfl

/-- A field is found by the accessors of a member to which it is the first to
answer. A shadowed member is none, and every other text, as it stands, comes
back as the error. -/
theorem resolve_accepts_accessor_grammar (S : Schema F) (expression : String) :
    (∀ f, S.resolve expression = .ok f ↔
      ∃ e : Accessor.Expression, e.text = expression.toList ∧ ¬ e.Shadowed ∧
        S.FirstToAnswer e.read.member.chars f) ∧
    (∀ e : Accessor.Expression, e.text = expression.toList → e.Shadowed →
      S.resolve expression = .error ⟨expression⟩) ∧
    ((∀ f, S.resolve expression ≠ .ok f) → S.resolve expression = .error ⟨expression⟩) := by
  refine ⟨fun f => ?_, fun e htext hshadowed => resolve_eq_error fun f hf => ?_, resolve_eq_error⟩
  · simp only [resolve_eq_ok_iff, Accessor.member?_eq_some_iff, find?_eq_some_iff]
    constructor
    · rintro ⟨_, ⟨e, htext, rfl, hshadowed⟩, hfirst⟩
      exact ⟨e, htext, hshadowed, hfirst⟩
    · rintro ⟨e, htext, hshadowed, hfirst⟩
      exact ⟨_, ⟨e, htext, rfl, hshadowed⟩, hfirst⟩
  · obtain ⟨_, hmember, -⟩ := resolve_eq_ok_iff.mp hf
    rw [← htext, e.member?_text, Accessor.Expression.readMember_shadowed hshadowed] at hmember
    cases hmember

/-- A member `as` is read behind a receiver and before a cast, unless it has a
space on either side. A space at the end of the whole text is no such space. -/
theorem resolve_accepts_accessor_grammar_around_word_of_cast :
    let S := Schema.ofFields [⟨"title", "title"⟩, ⟨"As", "as_"⟩]
    let as : Accessor.Name := ⟨['a', 's'], by decide⟩
    let p : Accessor.Name := ⟨['p'], by decide⟩
    let space : Accessor.Gap := ⟨[' '], by decide⟩
    let spaced : Accessor.Read := ⟨some ⟨p, .none, space⟩, as⟩
    let shadowed : Accessor.Expression :=
      ⟨.none, some (.bars .none p .none), space, spaced, some ⟨.none, .none, as⟩, .none⟩
    shadowed.text = "|p| p. as as as".toList ∧ shadowed.Shadowed ∧
      S.resolve "|p| p. as as as" = .error ⟨"|p| p. as as as"⟩ ∧
      S.resolve "p =>\tp.as as as" = .ok 1 ∧ S.resolve "p. as " = .ok 1 := by
  intro S as p space spaced shadowed
  have hshadowed : shadowed.Shadowed := ⟨rfl, ⟨_, rfl, rfl⟩, _, rfl, rfl⟩
  have hfirst : S.FirstToAnswer as.chars 1 := ⟨[0], [], by decide, by decide, by decide⟩
  let tight : Accessor.Expression :=
    ⟨.none, some (.arrow p space), ⟨['\t'], by decide⟩, ⟨some ⟨p, .none, .none⟩, as⟩, some ⟨.none, .none, as⟩, .none⟩
  have htight : ¬ tight.Shadowed := by
    rintro ⟨-, ⟨r, hr, hlast⟩, -⟩
    cases hr
    cases hlast
  let last : Accessor.Expression := ⟨.none, none, .none, spaced, none, space⟩
  have hlast : ¬ last.Shadowed := by
    rintro ⟨-, -, c, hc, -⟩
    cases hc
  refine ⟨by decide, hshadowed, ?_, ?_, ?_⟩
  · exact (resolve_accepts_accessor_grammar S "|p| p. as as as").2.1 shadowed (by decide) hshadowed
  · exact ((resolve_accepts_accessor_grammar S "p =>\tp.as as as").1 1).mpr ⟨tight, by decide, htight, hfirst⟩
  · exact ((resolve_accepts_accessor_grammar S "p. as ").1 1).mpr ⟨last, by decide, hlast, hfirst⟩

end Schema

end ListQuery
