import TemplateMetrics.Score.Grade

/-!
The default tables of the five dimensions.
-/

namespace TemplateMetrics.Score

def Bands.default : Bands Float := ⟨90.0, 80.0, 70.0, 60.0⟩

def Weights.default : Weights Float := ⟨1.0, 1.0, 1.0, 0.8, 1.0⟩

def Table.style : Table Float where
  rules := [
    ⟨"indentation_consistency", .below, 90.0, 1.0, 25.0,
      "Only \x7bvalue\x7d% of indented templates use the dominant indentation style"⟩,
    ⟨"naming_consistency", .below, 80.0, 0.5, 20.0,
      "Declared names follow the dominant naming convention \x7bvalue\x7d% of the time"⟩,
    ⟨"long_line_pct", .above, 5.0, 2.0, 20.0,
      "\x7bvalue\x7d% of lines exceed the maximum line length"⟩,
    ⟨"trailing_whitespace_pct", .above, 2.0, 2.0, 15.0,
      "\x7bvalue\x7d% of lines end with trailing whitespace"⟩,
    ⟨"mixed_indentation_files", .above, 0.0, 5.0, 20.0,
      "\x7bvalue\x7d templates mix tabs and spaces"⟩]
  bands := Bands.default

def Table.complexity : Table Float where
  rules := [
    ⟨"avg_complexity", .above, 10.0, 2.0, 30.0, "Average complexity score is \x7bvalue\x7d"⟩,
    ⟨"max_depth", .above, 5.0, 5.0, 20.0, "Nesting reaches depth \x7bvalue\x7d"⟩,
    ⟨"complex_template_pct", .above, 10.0, 1.0, 25.0,
      "\x7bvalue\x7d% of templates are rated D or worse for complexity"⟩,
    ⟨"max_complexity", .above, 50.0, 0.5, 15.0, "The most complex template scores \x7bvalue\x7d"⟩,
    ⟨"nested_loop_templates", .above, 0.0, 2.0, 10.0,
      "\x7bvalue\x7d templates contain nested loops"⟩]
  bands := Bands.default

def Table.architecture : Table Float where
  rules := [
    ⟨"cycle_count", .above, 0.0, 10.0, 30.0, "\x7bvalue\x7d dependency cycles detected"⟩,
    ⟨"orphan_pct", .above, 20.0, 0.5, 15.0,
      "\x7bvalue\x7d% of templates neither reference nor are referenced by others"⟩,
    ⟨"avg_instability", .above, 0.7, 50.0, 15.0, "Average instability is \x7bvalue\x7d"⟩,
    ⟨"max_inheritance_depth", .above, 4.0, 5.0, 15.0,
      "Inheritance chains reach depth \x7bvalue\x7d"⟩,
    ⟨"highly_coupled", .above, 0.0, 3.0, 15.0, "\x7bvalue\x7d templates are highly coupled"⟩]
  bands := Bands.default

def Table.callables : Table Float where
  rules := [
    ⟨"high_risk_calls", .above, 0.0, 10.0, 40.0,
      "\x7bvalue\x7d calls to high-risk filters or functions"⟩,
    ⟨"medium_risk_calls", .above, 0.0, 2.0, 20.0,
      "\x7bvalue\x7d calls to medium-risk filters or functions"⟩,
    ⟨"avg_callable_density", .above, 0.5, 20.0, 15.0,
      "Templates average \x7bvalue\x7d callable uses per code line"⟩,
    ⟨"top_filter_share_pct", .above, 60.0, 0.5, 10.0,
      "The most used filter accounts for \x7bvalue\x7d% of filter calls"⟩]
  bands := Bands.default

def Table.maintainability : Table Float where
  rules := [
    ⟨"avg_lines", .above, 150.0, 0.1, 20.0, "Templates average \x7bvalue\x7d lines"⟩,
    ⟨"large_template_pct", .above, 10.0, 1.0, 20.0,
      "\x7bvalue\x7d% of templates exceed the large-template size"⟩,
    ⟨"size_gini", .above, 0.6, 50.0, 15.0,
      "Template sizes are unevenly distributed (Gini \x7bvalue\x7d)"⟩,
    ⟨"comment_pct", .below, 1.0, 5.0, 10.0, "Only \x7bvalue\x7d% of lines are comments"⟩,
    ⟨"error_pct", .above, 0.0, 2.0, 30.0, "\x7bvalue\x7d% of templates could not be analyzed"⟩]
  bands := Bands.default

end TemplateMetrics.Score
