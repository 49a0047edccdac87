import SeriesQuery.Proofs.Aggregator.Coding
import SeriesQuery.Proofs.Filter.Coding
import SeriesQuery.Proofs.Target.Coding

/-!
Substitution by way of JSON text. If no inserted text needs an escape, the way over the text gives
the same as the replacement of the variables in every text of a filter, of rendered parts or of a
saved part.
-/

namespace SeriesQuery.Template.Context

open Json

variable {context : Context}

theorem throughJson_filter {f : Filter} (hdepth : f.toJson.depth ≤ Reader.levelLimit)
    (hplain : context.InsertsPlain f.toJson)
    (hand : "and" ∉ (f.mapText (context.replace none)).operators) :
    context.throughJson Filter.toJson Filter.reader f = .ok (f.mapText (context.replace none)) := by
  have hmapText := f.mapText_toJson (hplain.shipped.replace_fixesWords none)
  have hdepth : (f.mapText (context.replace none)).toJson.depth ≤ Reader.levelLimit := by
    rw [← hmapText, depth_mapText]
    exact hdepth
  rw [throughJson_of_insertsPlain f.toJson_scannable.spaced hplain, hmapText]
  exact Filter.reader_ofJson hdepth hand

/-- Rendered parts as they are written. -/
def partsJson (parts : List RenderedPart) : Json :=
  .array (parts.map RenderedPart.toJson)

theorem partsJson_spaced (parts : List RenderedPart) : (partsJson parts).Spaced := by
  refine .array (fun inner hinner => ?_) fun item hitem => ?_
  · cases parts with
    | nil => cases hinner
    | cons part parts =>
      rcases part with (_ | _ | _) | _ <;> cases hinner
  · obtain ⟨part, _, rfl⟩ := List.mem_map.1 hitem
    exact part.toJson_spaced

/-- A list of rendered parts has one level more than they have. -/
theorem depth_partsJson_le {parts : List RenderedPart} {levels : Nat}
    (h : ∀ part ∈ parts, part.toJson.depth ≤ levels) : (partsJson parts).depth ≤ levels + 1 := by
  have hitems : itemDepth (parts.map RenderedPart.toJson) ≤ levels := by
    refine itemDepth_le fun item hitem => ?_
    obtain ⟨part, hpart, rfl⟩ := List.mem_map.1 hitem
    exact h part hpart
  exact Nat.succ_le_succ hitems

theorem mapText_partsJson {g : String → String} (hg : FixesWords g) (parts : List RenderedPart) :
    (partsJson parts).mapText g = partsJson (parts.map (·.mapText g)) := by
  rw [partsJson, mapText, mapTextItems_eq_map, List.map_map, partsJson, List.map_map]
  exact congrArg Json.array (List.map_congr_left fun part _ => part.mapText_toJson hg)

theorem reader_partsJson {parts : List RenderedPart} {levels : Nat}
    (hwhole : ∀ part ∈ parts, part.toJson.Integral) (hdepth : (partsJson parts).depth ≤ levels) :
    Reader.list RenderedPart.reader levels (.ofJson (partsJson parts)) = .ok parts := by
  rw [partsJson, depth] at hdepth
  obtain ⟨inner, rfl⟩ : ∃ inner, levels = inner + 1 := ⟨levels - 1, by omega⟩
  refine Reader.list_ofJson fun part hpart => ?_
  have hpartDepth : part.toJson.depth ≤ inner := by
    have := depth_le_itemDepth (List.mem_map_of_mem (f := RenderedPart.toJson) hpart)
    omega
  exact RenderedPart.reader_ofJson (hwhole part hpart) hpartDepth

/-- Parts with other texts are read back from their value with other strings. -/
theorem reader_mapText_partsJson {g : String → String} (hg : FixesWords g)
    {parts : List RenderedPart} (hwhole : ∀ part ∈ parts, part.IsWhole)
    (hdepth : (partsJson parts).depth ≤ Reader.levelLimit) :
    Reader.list RenderedPart.reader Reader.levelLimit (.ofJson ((partsJson parts).mapText g)) =
      .ok (parts.map (·.mapText g)) := by
  have hmapped : ∀ part ∈ parts.map (·.mapText g), part.toJson.Integral := by
    intro mapped hmem
    obtain ⟨part, hpart, rfl⟩ := List.mem_map.1 hmem
    rw [← part.mapText_toJson hg]
    exact (RenderedPart.toJson_integral (hwhole part hpart)).mapText _
  rw [← depth_mapText g] at hdepth
  rw [mapText_partsJson hg] at hdepth ⊢
  exact reader_partsJson hmapped hdepth

theorem throughJson_parts {parts : List RenderedPart} (hwhole : ∀ part ∈ parts, part.IsWhole)
    (hdepth : (partsJson parts).depth ≤ Reader.levelLimit)
    (hplain : context.InsertsPlain (partsJson parts)) :
    context.throughJson partsJson (.list RenderedPart.reader) parts =
      .ok (parts.map (·.mapText (context.replace none))) := by
  rw [throughJson_of_insertsPlain (partsJson_spaced parts) hplain]
  exact reader_mapText_partsJson (hplain.shipped.replace_fixesWords none) hwhole hdepth

theorem throughJson_savedPart {part : SavedPart} (hscope : part.scope.IsKnown)
    (hplain : context.InsertsPlain part.toJson) :
    context.throughJson SavedPart.toJson SavedPart.reader part =
      .ok (part.mapText (context.replace none)) := by
  have hmapText := part.mapText_toJson (hplain.shipped.replace_fixesWords none) hscope
  rw [throughJson_of_insertsPlain part.toJson_scannable.spaced hplain, hmapText]
  exact SavedPart.reader_ofJson _ 125

/-- Where a service of the library inserts plain text, the way over JSON text replaces the variables
in every text of a filter, of a list of rendered parts or of a saved part on its own, and changes
nothing else. -/
theorem throughJson_leafwise (context : Context) :
    (∀ f : Filter, f.toJson.depth ≤ Reader.levelLimit → context.InsertsPlain f.toJson →
      "and" ∉ (f.mapText (context.replace none)).operators →
      context.throughJson Filter.toJson Filter.reader f =
        .ok (f.mapText (context.replace none))) ∧
    (∀ parts : List RenderedPart, (∀ part ∈ parts, part.IsWhole) →
      (partsJson parts).depth ≤ Reader.levelLimit → context.InsertsPlain (partsJson parts) →
      context.throughJson partsJson (.list RenderedPart.reader) parts =
        .ok (parts.map (·.mapText (context.replace none)))) ∧
    (∀ part : SavedPart, part.scope.IsKnown → context.InsertsPlain part.toJson →
      context.throughJson SavedPart.toJson SavedPart.reader part =
        .ok (part.mapText (context.replace none))) :=
  ⟨fun _ hdepth hplain hand => throughJson_filter hdepth hplain hand,
    fun _ hwhole hdepth hplain => throughJson_parts hwhole hdepth hplain,
    fun _ hscope hplain => throughJson_savedPart hscope hplain⟩

/-- Variables of a filter, of the tags of a grouping and of a parameter, one with a format. -/
theorem throughJson_host_leafwise :
    let context : Context :=
      ⟨.dashboard ⟨[("host", .ofValue (.multi ["web1", "web2"]))]⟩, .empty⟩
    let filter : Filter := .and [.compare "=" "host" "${host:pipe}", .custom "a \"$b\" \n"]
    let grouping : Aggregator :=
      .group (some ["[[host]]"]) [⟨.average, some ⟨some (.integer 60 (by decide))⟩⟩]
    let part : SavedPart := ⟨"average", some ["$host", "$other"], .known .collapse⟩
    context.throughJson Filter.toJson Filter.reader filter =
        .ok (filter.mapText (context.replace none)) ∧
      context.throughJson partsJson (.list RenderedPart.reader) [.aggregator grouping] =
        .ok [.aggregator (grouping.mapText (context.replace none))] ∧
      context.throughJson SavedPart.toJson SavedPart.reader part =
        .ok (part.mapText (context.replace none)) := by
  intro context filter grouping part
  obtain ⟨hfilter, hparts, hpart⟩ := throughJson_leafwise context
  refine ⟨?_, ?_, ?_⟩
  · exact hfilter filter (by decide +kernel) (by decide +kernel) (by decide +kernel)
  · refine hparts [.aggregator grouping] ?_ (by decide +kernel) (by decide +kernel)
    simp [grouping, RenderedPart.IsWhole, Aggregator.IsWhole, Sampling.IsWhole]
  · exact hpart part trivial (by decide +kernel)

end SeriesQuery.Template.Context
