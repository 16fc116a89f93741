import MarkupValues.Proofs.Code.Scanner
import MarkupValues.Proofs.Reading.Parts
import MarkupValues.Proofs.Session.Dispatch

/-!
# No text gets out of the code that it is converted to

A conversion to a core type gives a well-formed expression, unless the type is that of cursors or of
a list of numbers, where pieces of the text stand for names or numbers (`wellFormed_of_convert`). So
the C# code of a session is closed whatever the text (`Session.isClosed_convert`).
-/

namespace MarkupValues

/-- The names of the core types and of their companions are paths. -/
theorem isTypeName_of_mem_catalog :
    ∀ type ∈ catalog, ∀ name ∈ type.destination :: type.companions,
      Language.csharp.isTypeName name = true := by
  simp only [catalog, List.forall_mem_cons]
  repeat' apply And.intro
  all_goals first
    | exact List.forall_mem_nil _
    | refine Language.isTypeName_of_chars _ rfl ?_
  all_goals decide +kernel

/-- The types of the framework that results mention are paths. -/
theorem isTypeName_of_framework :
    ∀ name ∈ [TypeName.timeSpan, .uri, .uriKind], Language.csharp.isTypeName name = true := by
  decide +kernel

/-- The names that the grammars spell are identifiers, each by its characters. -/
theorem isIdentifier_of_mem_vocabulary : ∀ name ∈ vocabulary, isIdentifier name.toList = true := by
  decide +kernel

/-- The names that a result for a core type mentions are paths, when no auxiliary names are
given. -/
theorem CoreType.isTypeName_of_mentions {type : CoreType} (htype : type ∈ catalog)
    {name : TypeName} (h : (type.entry.target []).Mentions name) :
    Language.csharp.isTypeName name = true := by
  rcases h with rfl | h | h
  · exact isTypeName_of_mem_catalog type htype _ (.head _)
  · exact isTypeName_of_mem_catalog type htype name (.tail _ (List.mem_of_getElem? h))
  · exact isTypeName_of_framework name h

/-- A result is well formed when the names that it may mention are paths, unless the text names a
cursor or is a list of numbers. -/
theorem Grammar.wellFormed_of_convert {language : Language} {grammar : Grammar} {source : String}
    {target : Target} {e : Expr} (hcursor : grammar ≠ .cursor) (hlist : grammar.listsNumbers = false)
    (htarget : ∀ name, target.Mentions name → language.isTypeName name = true)
    (h : grammar.convert source target = .ok e) : e.WellFormed language := by
  have hmade := madeOf_of_convert h
  refine hmade.mono htarget (fun name hname => ?_) fun value hvalue => ?_
  · have hspells : name ∈ vocabulary := by
      cases grammar <;> first | exact hname | exact absurd rfl hcursor
    exact isIdentifier_of_mem_vocabulary name hspells
  · unfold Admits at hvalue
    rw [hlist] at hvalue
    exact hvalue.2

/-- The C# code for a value of a core type is closed whatever the text, unless the type is that of
cursors or of a list of numbers: each string in it ends, and its brackets outside strings match. -/
theorem Session.isClosed_convert {session : Session} {typeName raw code : String}
    (hlanguage : session.options.language = .csharp) (hregistry : session.registry = .defaults)
    (hconverter : session.options.fallbackConverter.isPath = true)
    (htype : ∀ type ∈ catalog, type.key = Registry.lookupKey typeName →
      type.grammar ≠ .cursor ∧ type.grammar.listsNumbers = false)
    (h : session.convert typeName raw [] = .ok code) : CSharp.isClosed code = true := by
  obtain ⟨e, he, rfl⟩ := convert_eq_ok_iff.1 h
  rw [hregistry] at he
  cases hlookup : Registry.defaults.lookup? typeName with
  | some entry =>
    obtain ⟨type, hmem, hkey, rfl⟩ := Registry.exists_of_lookup?_defaults hlookup
    obtain ⟨hcursor, hlist⟩ := htype type hmem hkey
    rw [Registry.convertExpr_of_lookup? hlookup, type.convert_entry] at he
    exact CSharp.isClosed_render hlanguage hconverter (Grammar.wellFormed_of_convert hcursor hlist
      (fun _ => type.isTypeName_of_mentions hmem) he)
  | none =>
    rw [Registry.convertExpr_of_lookup?_eq_none hlookup] at he
    cases he

/-- A font family whose name holds the end of its string and of the call. -/
theorem Session.isClosed_convert_font_family :
    ∃ code, Session.convert {} "System.Windows.Media.FontFamily" "\"); (" [] = .ok code ∧
      CSharp.isClosed code = true := by
  have hcode : Session.convert {} "System.Windows.Media.FontFamily" "\"); (" [] =
      .ok "new global::System.Windows.Media.FontFamily(@\"\"\"); (\")" := by
    decide +kernel
  exact ⟨_, hcode, Session.isClosed_convert rfl rfl (by decide +kernel) (by decide +kernel) hcode⟩

end MarkupValues
