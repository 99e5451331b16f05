namespace ReleaseArtifacts.Formula

/-!
# The formula template

* `templateLines` — the template that formulas are made from, line by line.
* `templateText` — its text; `templateName` — what faults call it.
-/

/-- What faults in the template call it. -/
def templateName : String := "formula.rb.j2"

/-- The lines of the template. -/
def templateLines : List String :=
  [
    "class \x7b\x7b formula.class_name \x7d\x7d < Formula",
    "  desc \"\x7b\x7b formula.desc \x7d\x7d\"",
    "  homepage \"\x7b\x7b formula.homepage \x7d\x7d\"",
    "  url \"\x7b\x7b release.url \x7d\x7d\"",
    "  sha256 \"\x7b\x7b release.sha256 \x7d\x7d\"",
    "  version \"\x7b\x7b release.version \x7d\x7d\"",
    "  license \"\x7b\x7b formula.license \x7d\x7d\"",
    "  head \"\x7b\x7b formula.head.url \x7d\x7d\", branch: \"\x7b\x7b formula.head.branch \x7d\x7d\"",
    "",
    "\x7b% for dependency in formula.build_dependencies %\x7d",
    "  depends_on \"\x7b\x7b dependency \x7d\x7d\" => :build",
    "\x7b% endfor %\x7d",
    "",
    "  def install",
    "    system \x7b\x7b build_invocation | ruby_args \x7d\x7d",
    "",
    "\x7b% for binary in formula.binaries %\x7d",
    "    libexec.install \"target/release/\x7b\x7b binary \x7d\x7d\"",
    "\x7b% endfor %\x7d",
    "",
    "    wasm_modules = Dir[\"wasm/*_tool.wasm\"]",
    "    odie \"No wasm tool modules found under wasm/\" if wasm_modules.empty?",
    "    pkgshare.install wasm_modules",
    "",
    "\x7b% for launcher in formula.launchers %\x7d",
    "    (bin/\"\x7b\x7b launcher.name \x7d\x7d\").write <<~EOS",
    "      #!/bin/bash",
    "      set -euo pipefail",
    "",
    "      APP_ROOT=\"$\x7bHOME\x7d/\x7b\x7b formula.runtime.home_dir \x7d\x7d\"",
    "      mkdir -p \"$\x7bAPP_ROOT\x7d\" \"$\x7bAPP_ROOT\x7d/data\"",
    "",
    "      if [[ -e \"$\x7bAPP_ROOT\x7d/wasm\" && ! -L \"$\x7bAPP_ROOT\x7d/wasm\" ]]; then",
    "        rm -rf \"$\x7bAPP_ROOT\x7d/wasm\"",
    "      fi",
    "      if [[ ! -L \"$\x7bAPP_ROOT\x7d/wasm\" ]]; then",
    "        ln -sfn \"#\x7bpkgshare\x7d\" \"$\x7bAPP_ROOT\x7d/wasm\"",
    "      fi",
    "",
    "      cd \"$\x7bAPP_ROOT\x7d\"",
    "      export \x7b\x7b formula.runtime.db_env \x7d\x7d=\"\x7b\x7b sh_default(formula.runtime.db_env, \"$\x7bAPP_ROOT\x7d/data/\" ~ formula.runtime.db_file) \x7d\x7d\"",
    "",
    "      exec \"#\x7blibexec\x7d/\x7b\x7b launcher.binary \x7d\x7d\"\x7b% if launcher.pass_db %\x7d --db \"\x7b\x7b sh_var(formula.runtime.db_env) \x7d\x7d\"\x7b% endif %\x7d \"$@\"",
    "    EOS",
    "",
    "\x7b% endfor %\x7d",
    "\x7b% for launcher in formula.launchers %\x7d",
    "    chmod 0755, bin/\"\x7b\x7b launcher.name \x7d\x7d\"",
    "\x7b% endfor %\x7d",
    "  end",
    "",
    "  def caveats",
    "    <<~EOS",
    "      Installed commands:",
    "\x7b% for launcher in formula.launchers %\x7d",
    "        \x7b\x7b launcher.name | ljust(name_width) \x7d\x7d(\x7b\x7b launcher.summary \x7d\x7d)",
    "\x7b% endfor %\x7d",
    "",
    "      Runtime data directory:",
    "        ~/\x7b\x7b formula.runtime.home_dir \x7d\x7d",
    "",
    "      WASM tool modules are installed at:",
    "        #\x7bpkgshare\x7d",
    "    EOS",
    "  end",
    "",
    "  test do",
    "    output = shell_output(\"#\x7bbin\x7d/\x7b\x7b formula.test.command \x7d\x7d\")",
    "    assert_match \"\x7b\x7b formula.test.expect \x7d\x7d\", output",
    "  end",
    "end"
  ]

/-- The text of the template: every line ends in a line feed. -/
def templateText : String :=
  String.join (templateLines.map (· ++ "\n"))

end ReleaseArtifacts.Formula
