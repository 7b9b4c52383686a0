import TemplateMetrics.Settings.Decode
import TemplateMetrics.Toml.Document

/-!
Settings from TOML text, and the document that states all defaults.
-/

namespace TemplateMetrics.Settings

/-- Settings from a document that stands for itself, without files or environment. -/
def ofToml? (text : String) : Option Settings := (Toml.parse? .v11 text).bind (ofJson? .whole)

/-- A commented document with the default of every key. -/
def defaultDocument : String := "# stencil configuration
#
# Place this file at `stencil.toml` or `.stencil/stencil.toml` in the
# directory being analyzed. Every key is optional; omitted keys keep the
# values shown here. Environment variables override file values, e.g.
# STENCIL_STYLE__MAX_LINE_LENGTH=100.

# File name suffixes treated as templates.
extensions = [\".twig\", \".jinja\", \".jinja2\", \".j2\"]

# Glob patterns (relative to the analysis root) to skip.
exclude = []

[complexity]
# Upper bounds of the A, B, C and D complexity ratings; higher scores are E.
rating_thresholds = [5.0, 10.0, 20.0, 30.0]

[complexity.weights]
# complexity_score = condition*ifs + loop*fors + ternary*ternaries
#                  + logical_operator*and/or + test*tests + depth*max_depth
condition = 1.0
loop = 2.0
ternary = 1.0
logical_operator = 1.0
test = 0.0
depth = 2.0

[control_flow]
# An `if` whose test joins more operands than this is a complex condition.
complex_condition_arity = 3

[style]
max_line_length = 120

[size]
# Upper bounds (lines) of the A, B, C and D size ratings.
rating_thresholds = [50.0, 100.0, 200.0, 400.0]
large_template_lines = 300

[security.filters]
raw = \"high\"
safe = \"high\"
markdown_to_html = \"medium\"
convert_encoding = \"low\"

[security.functions]
template_from_string = \"high\"
constant = \"medium\"
attribute = \"medium\"
source = \"medium\"
dump = \"medium\"

[classification]
# Architectural role cascade (first match wins):
#   core_component, layout, base_template, reusable_component,
#   orchestrator, isolated, entry_point, complex_leaf, leaf
core_component_refs = 10
layout_min_blocks = 3
base_template_blocks = 5
base_template_refs = 2
reusable_component_refs = 1
orchestrator_dependencies = 5
complex_leaf_score = 20.0
# Coupling risk cascade: critical, high, medium, low
critical_refs = 10
critical_complexity = 20.0
high_refs = 10
high_dependencies = 8
high_shared_refs = 5
high_shared_dependencies = 4
medium_refs = 3
medium_dependencies = 4

[coupling]
highly_coupled_threshold = 10
hotspot_count = 10
stable_threshold = 0.3
unstable_threshold = 0.7

[scoring]
# Fail `stencil report` when the overall score is below this value.
# fail_under = 70.0

[scoring.weights]
style = 1.0
complexity = 1.0
architecture = 1.0
callables = 0.8
maintainability = 1.0

[scoring.overall]
a = 90.0
b = 80.0
c = 70.0
d = 60.0

# Each dimension has its own penalty table. A table replaces the built-in
# one entirely, for example:
#
# [scoring.architecture]
# bands = \x7b a = 90.0, b = 80.0, c = 70.0, d = 60.0 \x7d
#
# [[scoring.architecture.rules]]
# driver = \"cycle_count\"
# direction = \"above\"
# threshold = 0.0
# per_unit = 10.0
# max_penalty = 30.0
# insight = \"\x7bvalue\x7d dependency cycles detected\"
"

end TemplateMetrics.Settings
