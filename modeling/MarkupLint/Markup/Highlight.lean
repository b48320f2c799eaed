import MarkupLint.Text.Case

set_option autoImplicit false

namespace MarkupLint.Markup

def highlightedRows : List String :=
    [ "abap abl abnf aconf actionscript actionscript3 ada ada2005 ada95 adl agda aheui ahk alloy",
      "ambienttalk ambienttalk/2 amdgpu ampl androidbp ansys antlr antlr-actionscript antlr-as",
      "antlr-c# antlr-cpp antlr-csharp antlr-java antlr-objc antlr-perl antlr-python antlr-rb",
      "antlr-ruby apache apacheconf apdl apl applescript arduino arexx arrow art arturo as as3 asc",
      "asm asn1 aspectj aspx-cs aspx-vb asy asymptote at augeas autohotkey autoit awk b3d bare",
      "basemake bash basic bat batch bazel bbcbasic bbcode bc bdd be befunge berry bf bib bibtex",
      "blitzbasic blitzmax blueprint bmax bnf boa boo boogie bp bplus bqn brainfuck bro bsdmake bst",
      "bst-pybtex bugs c c# c++ c++-objdumb c-objdump ca65 cadl camkes capdl capnp carbon cbmbas",
      "cddl ceylon cf3 cfc cfengine3 cfg cfm cfs chai chaiscript chapel charmci cheetah chpl cirru",
      "cl clay clean clipper clj cljs clojure clojurescript cmake cobol cobolfree coffee",
      "coffee-script coffeescript comal comal80 common-lisp componentpascal console control coq cp",
      "cplint cpp cpp-objdump cpsa cr crmsh croc cry cryptol crystal cs csh csharp csound",
      "csound-csd csound-document csound-orc csound-sco csound-score css css+django css+erb",
      "css+genshi css+genshitext css+jinja css+lasso css+mako css+mozpreproc css+myghty css+php",
      "css+ruby css+smarty css+ul4 cu cucumber cuda cxx-objdump cypher cython d d-objdump dart",
      "dasm16 dax debcontrol debsources delphi desktop devicetree dg diff django dmesg do docker",
      "dockerfile dosbatch doscon dosini dot dpatch dtd dts duby duel dylan dylan-console dylan-lid",
      "dylan-repl earl-grey earlgrey easytrieve ebnf ec ecl eg eiffel elisp elixir elm elpi emacs",
      "emacs-lisp email eml erb erl erlang evoque ex execline exs extempore ezhil f# f90 factor fan",
      "fancy fc felix fennel fif fift fish fishshell flatline flo floscript flx fnl forth fortran",
      "fortranfixed foxpro freefem fsharp fstar func futhark fy gap gap-console gap-repl gas gawk",
      "gcode gd gdscript genshi genshitext gherkin glsl gnuplot go golang golo gooddata-cl gosu",
      "graphql graphviz groff groovy gsed gsql gst haml handlebars haskell haxe haxeml hcl hexdump",
      "hlsl hs hsa hsail hspec html html+cheetah html+django html+erb html+evoque html+genshi",
      "html+handlebars html+jinja html+kid html+lasso html+mako html+myghty html+ng2 html+php",
      "html+ruby html+smarty html+spitfire html+twig html+ul4 html+velocity htmlcheetah htmldjango",
      "http hx hxml hxsl hy hybris hylang i6 i6t i7 icon idl idl4 idr idris iex igor igorpro ik",
      "inform6 inform7 ini io ioke irb irc isabelle j jade jags janet jasmin jasminxt java",
      "javascript javascript+cheetah javascript+django javascript+erb javascript+genshi",
      "javascript+genshitext javascript+jinja javascript+lasso javascript+mako",
      "javascript+mozpreproc javascript+myghty javascript+php javascript+ruby javascript+smarty",
      "javascript+spitfire jbst jcl jinja jl jlcon jmespath jp jproperties js js+cheetah js+django",
      "js+erb js+genshi js+genshitext js+jinja js+lasso js+mako js+myghty js+php js+ruby js+smarty",
      "js+spitfire js+ul4 jsgf jslt json json-ld json-object jsonld jsonml+bst jsonnet jsp jsx",
      "julia julia-repl juttle k kal kconfig kernel-config kid kmsg koka kotlin kql ksh kuin kusto",
      "lagda lasso lassoscript latex lcry lcryptol ldapconf ldaprc ldif lean lean3 lean4 less",
      "lhaskell lhs lid lidr lidris lighttpd lighty lilypond limbo linux-config linuxconfig liquid",
      "lisp literate-agda literate-cryptol literate-haskell literate-idris live-script livescript",
      "llvm llvm-mir llvm-mir-body lobas logos logtalk lsl lua luau m2 macaulay2 macsyma make",
      "makefile mako man maql markdown mask mason mathematica matlab matlabsession mawk maxima mcf",
      "mcfunction mcschema md mediawiki menuconfig meson meson.build mf mime minid miniscript mips",
      "mma modelica modula2 moin mojo monkey monte moo moocode moon moonscript mosel mozhashpreproc",
      "mozpercentpreproc mq4 mq5 mql mql4 mql5 ms msc mscgen mupad mxml myghty mysql nasm nawk nb",
      "ncl nemerle nesc nestedtext newlisp newspeak ng2 nginx nim nimrod nit nix nixos nodejsrepl",
      "notmuch nroff nsh nsi nsis nt numpy nusmv obj-c obj-c++ obj-j objc objc++ objdump",
      "objdump-nasm objective-c objective-c++ objective-j objectivec objectivec++ objectivej",
      "objectpascal objj ocaml octave odin omg-idl oobas ooc opa openbugs openedge openscad org",
      "org-mode orgmode output pacmanconf pan parasail pas pascal pawn pcmk peg pem perl perl6 phix",
      "php php3 php4 php5 pig pike pkgconfig pl pl6 plpgsql po pointless pony portugol posh",
      "postgres postgres-console postgres-explain postgresql postgresql-console postscr postscript",
      "pot pov powershell praat procfile progress prolog promela promql properties proto protobuf",
      "prql ps1 ps1con psm1 psql psysh ptx pug puppet pwsh pwsh-session py py+ul4 py2 py2tb py3",
      "py3tb pycon pypy pypylog pyrex pytb python python2 python3 pyx q qbasic qbs qlik qlikscript",
      "qliksense qlikview qml qvt qvto r racket ragel ragel-c ragel-cpp ragel-d ragel-em ragel-java",
      "ragel-objc ragel-rb ragel-ruby raku rb rbcon rconsole rd react reason reasonml rebol red",
      "red/system redcode registry resource resourcebundle rest restructuredtext rexx rhtml ride",
      "rita rkt rnc rng-compact roboconf-graph roboconf-instances robotframework rout rql rs rsl",
      "rst rts ruby rust s sage salt sarl sas sass savi sbatch sc scala scaml scd scdoc scheme",
      "scilab scm scss sed sgf sh shell shell-session shen shex shexc sieve silver singularity",
      "slash slim sls slurm smali smalltalk smarty smithy sml snbt snobol snowball sobas solidity",
      "soong sophia sources.list sourceslist sp sparql spec spice spicelang spitfire splus sql",
      "sql+jinja sqlite3 squeak squid squid.conf squidconf srcinfo ssed ssp st stan starlark stata",
      "supercollider sv swift swig systemd systemverilog t-sql tact tads3 tal tap tasm tcl tcsh",
      "tcshcon tea teal teraterm teratermmacro termcap terminfo terraform tex text tf thingsdb",
      "thrift ti tid tlb tls tnt todotxt toml trac-wiki trafficscript treetop ts tsql ttl turtle",
      "twig typescript typoscript typoscriptcssdata typoscripthtmldata typst ucode udiff ul4 unicon",
      "unixconfig urbiscript urlencoded usd usda uxntal v vala vapi vb.net vbnet vbscript vcl",
      "vclsnippet vclsnippets vctreestatus velocity verifpal verilog vfp vgl vhdl vim visualprolog",
      "visualprologgrammar vyper wast wat wdiff webidl wgsl whiley wikitext winbatch winbugs wowtoc",
      "wren x++ x10 xbase xml xml+cheetah xml+django xml+erb xml+evoque xml+genshi xml+jinja",
      "xml+kid xml+lasso xml+mako xml+myghty xml+php xml+ruby xml+smarty xml+spitfire xml+ul4",
      "xml+velocity xorg.conf xpp xq xql xqm xquery xqy xslt xten xtend xul+mozpreproc yaml",
      "yaml+jinja yang yar yara zeek zephir zig zone zsh 🔥" ]

def highlightedLanguages : List String := highlightedRows.flatMap (·.splitOn " ")

def isHighlighted (language : String) : Bool :=
  language.isEmpty || language = "text" || highlightedLanguages.contains (Text.toLower language)

end MarkupLint.Markup
