/-
The document that is built when no file is given.
-/

namespace EntityMarkup.CommandLine.Sample

/-- The name of the sample in reports. -/
def name : String := "sample.tml"

/-- The text of the sample. -/
def text : String :=
  String.join ([
    "<!-- Bundled sample: built when no file is given. -->",
    "<window title=\"Mission Control\" style=\"dark\" spacing=\"6\""
      ++ " align=\"center\">",
    "    <label text=\"Status\" style=\"heading\"/>",
    "    <group spacing=\"2\">",
    "        All systems nominal.",
    "        <button text=\"Launch\" on_click=\"launch_sequence\">",
    "            <tooltip text=\"Starts the countdown\"/>",
    "        </button>",
    "        <button text=\"Diagnostics\" on_click=\"run_diagnostics\"/>",
    "    </group>",
    "    <tree>",
    "        Subsystems",
    "        <node text=\"Propulsion\">",
    "            <node text=\"Fuel\"/>",
    "            <node text=\"Ignition\"/>",
    "        </node>",
    "        <node text=\"Navigation\"/>",
    "    </tree>",
    "</window>" ].map (· ++ "\n"))

end EntityMarkup.CommandLine.Sample
