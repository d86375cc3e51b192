import DesignTokens.Config.Basic

/-! # The configuration that comes with the program

It is for applications whose texts, colours and distances come from design tokens. Rules run from
first to last; a replacing rule sees what the rules before it made of the text, and the canonical
spellings come after all of them.

## Main definitions

* `Config.builtin` - the configuration that a run uses where none is given
-/

namespace DesignTokens.Config

namespace Builtin

/-- The module that the design tokens come from. -/
def tokenModule : String := "@presentation/theme/designTokens"

/-- Reports what the pattern of `hex-text-color` matches. -/
def hexTextColor : RuleEntry where
  id := "hex-text-color"
  kind := .detect
  pattern := "color:\\s*[\"']#[0-9A-Fa-f]\x7b6\x7d[\"']"
  description := "Cor hexadecimal hardcoded"

/-- Reports what the pattern of `colors-white-black` matches. -/
def colorsWhiteBlack : RuleEntry where
  id := "colors-white-black"
  kind := .detect
  pattern := "color:\\s*COLORS\\.(white|black)\\b"
  description := "Cor COLORS.white/black hardcoded"

/-- Reports what the pattern of `white-text-literal` matches. -/
def whiteTextLiteral : RuleEntry where
  id := "white-text-literal"
  kind := .detect
  pattern := "color:\\s*[\"']white[\"']"
  description := "Cor \"white\" hardcoded"

/-- Reports what the pattern of `black-text-literal` matches. -/
def blackTextLiteral : RuleEntry where
  id := "black-text-literal"
  kind := .detect
  pattern := "color:\\s*[\"']black[\"']"
  description := "Cor \"black\" hardcoded"

/-- Reports what the pattern of `white-background` matches. -/
def whiteBackground : RuleEntry where
  id := "white-background"
  kind := .detect
  pattern := "backgroundColor:\\s*COLORS\\.white\\b"
  description := "Background branco hardcoded"

/-- Reports what the pattern of `static-text-style` matches. -/
def staticTextStyle : RuleEntry where
  id := "static-text-style"
  kind := .detect
  pattern := "<Text\\s+style=\\\x7bstyles\\.\\w+\\\x7d>"
  description := "Text com estilo estático (verificar se adapta ao tema)"
  appliesTo := ["jsx", "tsx", "js"]

/-- Reports what the pattern of `hardcoded-font-size` matches. -/
def hardcodedFontSize : RuleEntry where
  id := "hardcoded-font-size"
  kind := .detect
  pattern := "fontSize:\\s*\\d+"
  description := "Tamanho de fonte hardcoded (use FONT_SIZE)"

/-- Replaces what the pattern of `font-weight-400` matches. -/
def fontWeight400 : RuleEntry where
  id := "font-weight-400"
  kind := .replace
  pattern := "fontWeight:\\s*['\"`]400['\"`]"
  replacement := some "fontWeight: FONT_WEIGHT.regular"
  description := "fontWeight '400' -> FONT_WEIGHT.regular"
  requires := some ⟨tokenModule, ["FONT_WEIGHT"]⟩

/-- Replaces what the pattern of `font-weight-500` matches. -/
def fontWeight500 : RuleEntry where
  id := "font-weight-500"
  kind := .replace
  pattern := "fontWeight:\\s*['\"`]500['\"`]"
  replacement := some "fontWeight: FONT_WEIGHT.medium"
  description := "fontWeight '500' -> FONT_WEIGHT.medium"
  requires := some ⟨tokenModule, ["FONT_WEIGHT"]⟩

/-- Replaces what the pattern of `font-weight-600` matches. -/
def fontWeight600 : RuleEntry where
  id := "font-weight-600"
  kind := .replace
  pattern := "fontWeight:\\s*['\"`]600['\"`]"
  replacement := some "fontWeight: FONT_WEIGHT.semibold"
  description := "fontWeight '600' -> FONT_WEIGHT.semibold"
  requires := some ⟨tokenModule, ["FONT_WEIGHT"]⟩

/-- Replaces what the pattern of `font-weight-700` matches. -/
def fontWeight700 : RuleEntry where
  id := "font-weight-700"
  kind := .replace
  pattern := "fontWeight:\\s*['\"`]700['\"`]"
  replacement := some "fontWeight: FONT_WEIGHT.bold"
  description := "fontWeight '700' -> FONT_WEIGHT.bold"
  requires := some ⟨tokenModule, ["FONT_WEIGHT"]⟩

/-- Reports what the pattern of `deprecated-paper-typography` matches. -/
def deprecatedPaperTypography : RuleEntry where
  id := "deprecated-paper-typography"
  kind := .replace
  pattern := "<(Title|Paragraph)\\b"
  description := "Title/Paragraph do react-native-paper foram descontinuados; use <Text>"
  appliesTo := ["jsx", "tsx", "js"]

/-- The rules in order. -/
def rules : List RuleEntry :=
  [hexTextColor, colorsWhiteBlack, whiteTextLiteral, blackTextLiteral, whiteBackground,
   staticTextStyle, hardcodedFontSize, fontWeight400, fontWeight500, fontWeight600,
   fontWeight700, deprecatedPaperTypography]

/-- The canonical spellings. -/
def canonicalNames : CanonicalEntry where
  version := 3
  names :=
    [("BORDER_RADIUS.xs4", "BORDER_RADIUS.sm"),
     ("COLORS.background.default", "COLORS.white"),
     ("COLORS.background.light", "COLORS.white"),
     ("COLORS.text.disabled", "COLORS.gray[300]"),
     ("COLORS.text.secondary", "COLORS.gray[500]"),
     ("FONT_WEIGHT.extraBold", "FONT_WEIGHT.extrabold"),
     ("FONT_WEIGHT.extraLight", "FONT_WEIGHT.extralight"),
     ("FONT_WEIGHT.semiBold", "FONT_WEIGHT.semibold"),
     ("SPACING.base", "SPACING.md")]

/-- The names that have to be imported where they are used. -/
def imports : List UsageEntry :=
  [⟨"SPACING", tokenModule⟩,
   ⟨"FONT_SIZE", tokenModule⟩,
   ⟨"FONT_WEIGHT", tokenModule⟩,
   ⟨"BORDER_RADIUS", tokenModule⟩,
   ⟨"BORDER_WIDTH", tokenModule⟩,
   ⟨"ELEVATION", tokenModule⟩,
   ⟨"getString", "@utils/theme"⟩]

/-- The imports that may take names of another module. -/
def importHosts : List HostEntry :=
  [⟨"@utils/theme", "@shared/utils/theme", none⟩]

/-- The fixed text of the report. -/
def report : ReportEntry where
  title := "Relatório de Design Tokens"
  reference :=
    ["// Cores dinâmicas que adaptam ao tema",
     "const textColor = theme.colors.text;",
     "const secondaryTextColor = theme.colors.textSecondary;",
     "",
     "// Tokens de design importados",
     "import \x7b FONT_WEIGHT, SPACING \x7d from '@presentation/theme/designTokens';",
     "<Text style=\x7b\x7b color: textColor, fontWeight: FONT_WEIGHT.semibold \x7d\x7d>Texto</Text>"]
  actions :=
    ["**Prioridade Alta**: Telas de Dashboard (Admin, Instructor, Student)",
     "**Prioridade Média**: Telas de listagem e detalhes",
     "**Prioridade Baixa**: Telas de configuração e onboarding"]
  checklist :=
    ["Substituir cores hardcoded por variáveis dinâmicas",
     "Adicionar `const textColor = theme.colors.text`",
     "Completar imports marcados como não suportados",
     "Testar em light e dark mode",
     "Verificar contraste WCAG AA (4.5:1)"]

/-- The files to look at. -/
def files : FilesEntry where
  extensions := ["js", "jsx", "ts", "tsx"]
  exclude := ["dist", "build", "coverage"]

end Builtin

/-- The configuration that a run uses where none is given. -/
def builtin : Config where
  rules := Builtin.rules
  canonicalNames := Builtin.canonicalNames
  imports := Builtin.imports
  importHosts := Builtin.importHosts
  report := Builtin.report
  files := Builtin.files

end DesignTokens.Config
