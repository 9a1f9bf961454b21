import GatewayConsole.Proofs.Pricing.FacetValues
import GatewayConsole.Proofs.Pricing.WrittenView

/-!
# Options by their written values

An option can be chosen by the value it is written with in JSON, and by the same text on the
command line. This goes wrong only where the name of an option is a word that the format
keeps for itself.
-/

namespace GatewayConsole

/-! ## Reading and writing by dimension -/

namespace Dimension

variable {Gap : Type}

def write : (dimension : Dimension) → dimension.Value → Json
  | .vendor => Vendor.toJson
  | .tag => .text
  | .group => .text
  | .billing => Billing.toJson
  | .endpointType => .text

def ofTree? : (dimension : Dimension) → JsonTree Gap → Option dimension.Value
  | .vendor => Vendor.ofTree?
  | .tag => (·.asText?)
  | .group => (·.asText?)
  | .billing => Billing.ofTree?
  | .endpointType => (·.asText?)

def ofText? : (dimension : Dimension) → String → Option dimension.Value
  | .vendor => some ∘ Vendor.ofText
  | .tag => some
  | .group => some
  | .billing => Billing.ofText?
  | .endpointType => some

end Dimension

def FacetOption.wire {dimension : Dimension} (option : FacetOption dimension.Value) : Json :=
  option.value.toJson dimension.write

/-! ## Words of the format -/

/-- Whether the name of a vendor stands for the open choice or for the unknown vendor, given
which names stand for the open choice. -/
def Vendor.IsShadowed (isOpen : String → Prop) : Vendor → Prop
  | .named name => isOpen name ∨ name = unknownWord
  | .unknown => False

namespace Dimension

def IsShadowed (isOpen : String → Prop) : (dimension : Dimension) → dimension.Value → Prop
  | .vendor => Vendor.IsShadowed isOpen
  | .tag => isOpen
  | .group => isOpen
  | .billing => fun _ => False
  | .endpointType => isOpen

/-- The pairs of choices that are written alike: the open choice and a name that stands for
it, and a vendor whose name stands for the unknown one. -/
inductive Confuses : (dimension : Dimension) → (first second : Choice dimension.Value) → Prop
  | openVendor : Confuses .vendor .all (.only (.named Choice.allWord))
  | openTag : Confuses .tag .all (.only Choice.allWord)
  | openGroup : Confuses .group .all (.only Choice.allWord)
  | openEndpointType : Confuses .endpointType .all (.only Choice.allWord)
  | unknownVendor : Confuses .vendor (.only (.named Vendor.unknownWord)) (.only .unknown)

end Dimension

def Choice.IsPlain {dimension : Dimension} (isOpen : String → Prop)
    (choice : Choice dimension.Value) : Prop :=
  ∀ value, choice = .only value → ¬dimension.IsShadowed isOpen value

/-! ## Reading written choices -/

namespace Choice

variable {Gap : Type} {dimension : Dimension}

theorem reread_name_iff (choice : Choice String) :
    choice.reread id id = choice ↔ ∀ name, choice = .only name → ¬name = allWord := by
  rw [Criteria.reread_name]
  constructor
  · intro notWord name chosen isWord
    exact notWord (chosen.trans (congrArg Choice.only isWord))
  · intro notWord chosen
    exact notWord _ chosen rfl

theorem reread_vendor_iff (choice : Choice Vendor) :
    choice.reread Vendor.toText Vendor.ofText = choice ↔
      ∀ vendor, choice = .only vendor → ¬vendor.IsShadowed (· = allWord) := by
  rw [Criteria.reread_vendor]
  cases choice with
  | all => simp
  | only vendor => cases vendor <;> simp [Vendor.IsShadowed]

/-- A written choice is always read as some choice, and as itself unless its name is a word
of the format. -/
theorem ofTree?_write (choice : Choice dimension.Value) :
    ∃ found, ofTree? dimension.ofTree? ((choice.toJson dimension.write).asTree : JsonTree Gap) =
        some found ∧
      (found = choice ↔ choice.IsPlain (· = allWord)) := by
  cases dimension with
  | vendor =>
      exact ⟨_, ofTree?_word Vendor.toText Vendor.ofText (fun _ => rfl) choice,
        reread_vendor_iff choice⟩
  | billing =>
      exact ⟨_, Billing.ofTree?_toJson choice, fun _ _ _ isWord => isWord, fun _ => rfl⟩
  | tag | group | endpointType =>
      exact ⟨_, ofTree?_word id id (fun _ => rfl) choice, reread_name_iff choice⟩

theorem survives_write {depth : Nat} (choice : Choice dimension.Value) :
    (choice.toJson dimension.write).Survives depth := by
  apply Choice.survives
  intro value
  cases dimension with
  | vendor => exact Json.survives_text (Vendor.toText value)
  | billing => cases value <;> exact ⟨rfl, Nat.zero_le depth⟩
  | tag | group | endpointType => exact Json.survives_text value

end Choice

/-! ## Reading choices on the command line -/

namespace Vendor

theorem ofText_toText_iff (vendor : Vendor) :
    ofText vendor.toText = vendor ↔ vendor ≠ .named unknownWord := by
  cases vendor with
  | unknown => simp [toText, ofText]
  | named name =>
      rw [toText, ofText]
      by_cases isWord : name = unknownWord <;> simp [isWord]

theorem not_isShadowed_iff (vendor : Vendor) :
    ¬vendor.IsShadowed (Choice.isAllWord · = true) ↔
      ofText vendor.toText = vendor ∧ Choice.isAllWord vendor.toText = false := by
  rw [ofText_toText_iff]
  cases vendor with
  | unknown =>
      have notAll : Choice.isAllWord unknownWord = false := by decide +kernel
      simp [IsShadowed, toText, notAll]
  | named name => simp [IsShadowed, toText, and_comm]

end Vendor

namespace Choice

variable {α : Type} {dimension : Dimension}

theorem ofText?_allWord (read : String → Option α) : ofText? read allWord = some .all := by
  rw [ofText?, if_pos (by decide +kernel)]

theorem ofText?_only_iff {read : String → Option α} {text : String} {value : α} :
    ofText? read text = some (.only value) ↔ read text = some value ∧ isAllWord text = false := by
  constructor
  · exact ofText?_only
  · intro ⟨isValue, notAll⟩
    rw [ofText?, notAll, isValue]
    rfl

theorem ofText?_write {choice : Choice dimension.Value} {text : String}
    (written : choice.toJson dimension.write = .text text) :
    ofText? dimension.ofText? text = some choice ↔ choice.IsPlain (isAllWord · = true) := by
  cases choice with
  | all =>
      cases written
      exact ⟨fun _ _ isOnly => (nomatch isOnly), fun _ => ofText?_allWord _⟩
  | only value =>
      have single : (only value).IsPlain (isAllWord · = true) ↔
          ¬dimension.IsShadowed (isAllWord · = true) value := by simp [IsPlain]
      rw [single, ofText?_only_iff]
      cases dimension with
      | vendor =>
          cases written
          have reads : (some ∘ Vendor.ofText) (Vendor.toText value) = some value ↔
            Vendor.ofText (Vendor.toText value) = value := Option.some_inj
          exact (and_congr_left fun _ => reads).trans (Vendor.not_isShadowed_iff value).symm
      | billing => cases value <;> exact nomatch written
      | tag | group | endpointType =>
          cases written
          exact (and_iff_right rfl).trans Bool.eq_false_iff

end Choice

/-! ## Distinct options -/

namespace Dimension

theorem eq_of_written_name {first second : Choice String}
    (alike : first.toJson .text = second.toJson .text) :
    first = second ∨ first = .all ∧ second = .only Choice.allWord ∨
      first = .only Choice.allWord ∧ second = .all := by
  cases first <;> cases second <;> simp_all [Choice.toJson]

theorem confuses_of_written_vendor {first second : Choice Vendor}
    (alike : first.toJson Vendor.toJson = second.toJson Vendor.toJson) :
    first = second ∨ Confuses .vendor first second ∨ Confuses .vendor second first := by
  have words : Choice.allWord ≠ Vendor.unknownWord := by decide
  cases first with
  | all =>
      cases second with
      | all => exact .inl rfl
      | only vendor =>
          cases vendor with
          | named name =>
              cases JsonTree.text.inj alike
              exact .inr (.inl .openVendor)
          | unknown => exact absurd (JsonTree.text.inj alike) words
  | only vendor =>
      cases vendor with
      | named name =>
          cases second with
          | all =>
              cases JsonTree.text.inj alike
              exact .inr (.inr .openVendor)
          | only other =>
              cases JsonTree.text.inj alike
              cases other with
              | named name => exact .inl rfl
              | unknown => exact .inr (.inl .unknownVendor)
      | unknown =>
          cases second with
          | all => exact absurd (JsonTree.text.inj alike).symm words
          | only other =>
              cases other with
              | named name =>
                  cases JsonTree.text.inj alike
                  exact .inr (.inr .unknownVendor)
              | unknown => exact .inl rfl

theorem eq_of_written_billing {first second : Choice Billing}
    (alike : first.toJson Billing.toJson = second.toJson Billing.toJson) : first = second := by
  have reads (choice : Choice Billing) := @Billing.ofTree?_toJson Unit choice
  apply Option.some.inj
  rw [← reads first, ← reads second, alike]

/-- Different choices are written alike only if the format confuses them. -/
theorem written_alike_iff {dimension : Dimension} {first second : Choice dimension.Value}
    (different : first ≠ second) :
    first.toJson dimension.write = second.toJson dimension.write ↔
      dimension.Confuses first second ∨ dimension.Confuses second first := by
  constructor
  · intro alike
    cases dimension with
    | vendor => exact (confuses_of_written_vendor alike).resolve_left different
    | billing => exact absurd (eq_of_written_billing alike) different
    | tag | group | endpointType =>
        rcases (eq_of_written_name alike).resolve_left different with ⟨rfl, rfl⟩ | ⟨rfl, rfl⟩
        · exact .inl (by constructor)
        · exact .inr (by constructor)
  · intro confused
    rcases confused with confused | confused <;> cases confused <;> rfl

end Dimension

/-! ## Choosing by written values -/

namespace Facets

variable {models : List Model} {criteria : Criteria} {groups : Groups} {translate : Translator}
  {dimension : Dimension}

theorem wires_distinct (sorted : groups.usable.IsSorted) :
    ((compute models criteria groups translate).on dimension).Pairwise fun first second =>
      first.wire = second.wire ↔
        dimension.Confuses first.value second.value ∨
          dimension.Confuses second.value first.value := by
  have distinct := nodup_values models criteria translate sorted dimension
  apply (List.pairwise_map.mp distinct).imp
  intro first second different
  exact Dimension.written_alike_iff different

theorem exists_text_of_wire (textual : dimension ≠ .billing)
    (option : FacetOption dimension.Value) : ∃ text, option.wire = .text text := by
  rw [FacetOption.wire]
  cases option.value with
  | all => exact ⟨_, rfl⟩
  | only value =>
      cases dimension with
      | billing => exact absurd rfl textual
      | _ => exact ⟨_, rfl⟩

/-- Options can be chosen by what they are written as: they are written differently, and what
one is read as selects as many models as it counts, from JSON and, if it is a text, from the
command line. Only names that stand for the open choice or for the unknown vendor are taken
for these. -/
theorem chosen_by_wire (models : List Model) (criteria : Criteria) {groups : Groups}
    (sorted : groups.usable.IsSorted) (translate : Translator) (dimension : Dimension) :
    let options := (compute models criteria groups translate).on dimension
    (options.Pairwise fun first second =>
      first.wire = second.wire ↔
        dimension.Confuses first.value second.value ∨
          dimension.Confuses second.value first.value) ∧
    ∀ option ∈ options,
      (∃ choice,
        (Document.ofText? option.wire.compact).bind (Choice.ofTree? dimension.ofTree?) =
          some choice ∧
        (option.value.IsPlain (· = Choice.allWord) →
          choice = option.value ∧
            ((criteria.choose dimension choice).select models).length = option.count)) ∧
      (dimension ≠ .billing → ∃ text, option.wire = .text text ∧
        (option.value.IsPlain (Choice.isAllWord · = true) →
          Choice.ofText? dimension.ofText? text = some option.value ∧
            ((criteria.choose dimension option.value).select models).length =
              option.count)) := by
  intro options
  refine ⟨wires_distinct sorted, fun option member => ⟨?_, fun textual => ?_⟩⟩
  · rcases @Choice.ofTree?_write Unit _ option.value with ⟨choice, found, itself⟩
    refine ⟨choice, ?_, fun plain => ?_⟩
    · rw [FacetOption.wire, (Choice.survives_write option.value).document_compact,
        Option.bind_some, found]
    · have same := itself.mpr plain
      rw [same]
      exact ⟨rfl, length_select_choose member⟩
  · rcases exists_text_of_wire textual option with ⟨text, written⟩
    refine ⟨text, written, fun plain => ?_⟩
    exact ⟨(Choice.ofText?_write written).mpr plain, length_select_choose member⟩

/-- A group whose key is the open word but for a blank and a capital can be chosen from JSON,
though not on the command line. -/
theorem chosen_by_wire_of_blank_key :
    let model (groups : List String) : Model :=
      ⟨"m", none, none, groups, none, [], none, none, none, none⟩
    let models := [model [" All"], model ["vip", " All"]]
    let groups : Groups := ⟨Keyed.ofPairs [("vip", "Important"), (" All", "Everyone")], []⟩
    let options := (compute models .unrestricted groups .unchanged).on .group
    let option : FacetOption (Dimension.Value .group) := ⟨.only " All", " All (x1)", 2, false⟩
    let other : FacetOption (Dimension.Value .group) := ⟨.only "vip", "vip (x1)", 1, false⟩
    groups.usable.IsSorted ∧ option ∈ options ∧ other ∈ options ∧
      (Document.ofText? option.wire.compact).bind (Choice.ofTree? (·.asText?)) =
        some (.only " All") ∧
      Choice.ofText? some "vip" = some (.only "vip") := by
  intro model models groups options option other
  have sorted : groups.usable.IsSorted := Keyed.isSorted_ofPairs _
  have member : option ∈ options := by decide +kernel
  have otherMember : other ∈ options := by decide +kernel
  have chosen := (chosen_by_wire models .unrestricted sorted .unchanged .group).2
  refine ⟨sorted, member, otherMember, ?_, ?_⟩
  · rcases (chosen option member).1 with ⟨choice, found, itself⟩
    have plain : option.value.IsPlain (· = Choice.allWord) := by
      intro value chosen
      cases chosen
      show ¬" All" = Choice.allWord
      decide
    exact found.trans (congrArg some (itself plain).1)
  · rcases (chosen other otherMember).2 (by decide) with ⟨text, written, reads⟩
    cases written
    refine (reads ?_).1
    intro value chosen
    cases chosen
    show ¬Choice.isAllWord "vip" = true
    decide +kernel

/-- A vendor whose name is a word of the format is written as another option is, and choosing
by what it is written as, or on the command line by the word in capitals, selects others. -/
theorem not_chosen_by_reserved_word :
    let model (vendor : String) : Model :=
      ⟨"m", some vendor, none, [], none, [], none, none, none, none⟩
    let models := [model "all", model "ALL", model "unknown"]
    let options := (compute models .unrestricted .empty .unchanged).on .vendor
    let selected (choice : Choice Vendor) :=
      ((Criteria.unrestricted.choose .vendor choice).select models).length
    let decoded (option : FacetOption Vendor) :=
      (Document.ofText? (@FacetOption.wire .vendor option).compact).bind
        (Choice.ofTree? Vendor.ofTree?)
    (∃ first ∈ options, ∃ second ∈ options, first ≠ second ∧ first.wire = second.wire) ∧
      (∃ option ∈ options, ∃ choice, decoded option = some choice ∧
        option.value = .only (.named Choice.allWord) ∧ selected choice ≠ option.count) ∧
      (∃ option ∈ options, ∃ choice, decoded option = some choice ∧
        option.value = .only (.named Vendor.unknownWord) ∧ selected choice ≠ option.count) ∧
      (∃ option ∈ options, ∃ text choice, option.wire = .text text ∧
        Choice.ofText? (some ∘ Vendor.ofText) text = some choice ∧
          selected choice ≠ option.count) := by
  intro model models options selected decoded
  let baseline := Criteria.unrestricted.selectExcept (some .vendor) models
  let named (name : String) : FacetOption Vendor :=
    .only (.named name) name (baseline.countP (·.vendor == some name))
  have offered (name : String) (given : model name ∈ models) (present : name ≠ "") :
      named name ∈ options := by
    have listed := ((listing_vendorNames models).mem_iff name).mpr ⟨present, _, given, rfl⟩
    exact List.mem_append_left _ (List.mem_cons_of_mem _ (List.mem_map_of_mem listed))
  have small : named Choice.allWord ∈ options := offered _ List.mem_cons_self (by decide)
  have capital : named "ALL" ∈ options :=
    offered _ (List.mem_cons_of_mem _ List.mem_cons_self) (by decide)
  have unknown : named Vendor.unknownWord ∈ options :=
    offered _ (List.mem_cons_of_mem _ (List.mem_cons_of_mem _ List.mem_cons_self)) (by decide)
  have decodes (option : FacetOption Vendor) : decoded option =
      Choice.ofTree? Vendor.ofTree? (option.value.toJson Vendor.toJson).asTree :=
    congrArg (Option.bind · _)
      (@Choice.survives_write .vendor _ option.value).document_compact
  refine ⟨⟨.all "All vendors" 3, List.mem_cons_self, named Choice.allWord, small, ?_, rfl⟩,
    ⟨named Choice.allWord, small, .all, ?_, rfl, by decide +kernel⟩,
    ⟨named Vendor.unknownWord, unknown, .only .unknown, ?_, rfl, by decide +kernel⟩,
    ⟨named "ALL", capital, "ALL", .all, rfl, by decide +kernel, by decide +kernel⟩⟩
  · intro same
    exact nomatch congrArg FacetOption.value same
  · exact (decodes _).trans rfl
  · exact (decodes _).trans rfl

end Facets
end GatewayConsole
