/-!
# Emoji names: d and e
-/

namespace JavaHome.Terminal.Emoji

/-- The names under d and e. -/
def namesDe : List (String × String) :=
  [("denmark", "🇩🇰"), ("diego_garcia", "🇩🇬"), ("djibouti", "🇩🇯"), ("dominica", "🇩🇲"),
    ("dominican_republic", "🇩🇴"), ("end_arrow", "🔚"), ("ecuador", "🇪🇨"), ("egypt", "🇪🇬"),
    ("el_salvador", "🇸🇻"), ("england", "🏴󠁧󠁢󠁥󠁮󠁧󠁿"), ("equatorial_guinea", "🇬🇶"), ("eritrea", "🇪🇷"),
    ("estonia", "🇪🇪"), ("ethiopia", "🇪🇹"), ("european_union", "🇪🇺"), ("dagger", "🗡"),
    ("dango", "🍡"), ("dashing_away", "💨"), ("deaf_person", "🧏"), ("deciduous_tree", "🌳"),
    ("deer", "🦌"), ("delivery_truck", "🚚"), ("department_store", "🏬"), ("derelict_house", "🏚"),
    ("desert", "🏜"), ("desert_island", "🏝"), ("desktop_computer", "🖥"), ("detective", "🕵"),
    ("detective_dark_skin_tone", "🕵🏿"), ("detective_light_skin_tone", "🕵🏻"),
    ("detective_medium-dark_skin_tone", "🕵🏾"), ("detective_medium-light_skin_tone", "🕵🏼"),
    ("detective_medium_skin_tone", "🕵🏽"), ("diamond_suit", "♦"), ("diamond_with_a_dot", "💠"),
    ("dim_button", "🔅"), ("direct_hit", "🎯"), ("disappointed_face", "😞"), ("diving_mask", "🤿"),
    ("diya_lamp", "🪔"), ("dizzy", "💫"), ("dizzy_face", "😵"), ("dna", "🧬"), ("dog", "🐶"),
    ("dog_face", "🐶"), ("dollar_banknote", "💵"), ("dolphin", "🐬"), ("door", "🚪"),
    ("dotted_six-pointed_star", "🔯"), ("double_curly_loop", "➿"), ("double_exclamation_mark", "‼"),
    ("doughnut", "🍩"), ("dove", "🕊"), ("down-left_arrow", "↙"), ("down-right_arrow", "↘"),
    ("down_arrow", "⬇"), ("downcast_face_with_sweat", "😓"), ("downwards_button", "🔽"),
    ("dragon", "🐉"), ("dragon_face", "🐲"), ("dress", "👗"), ("drooling_face", "🤤"),
    ("drop_of_blood", "🩸"), ("droplet", "💧"), ("drum", "🥁"), ("duck", "🦆"), ("dumpling", "🥟"),
    ("dvd", "📀"), ("e-mail", "📧"), ("eagle", "🦅"), ("ear", "👂"), ("ear_dark_skin_tone", "👂🏿"),
    ("ear_light_skin_tone", "👂🏻"), ("ear_medium-dark_skin_tone", "👂🏾"),
    ("ear_medium-light_skin_tone", "👂🏼"), ("ear_medium_skin_tone", "👂🏽"), ("ear_of_corn", "🌽"),
    ("ear_with_hearing_aid", "🦻"), ("egg", "🍳"), ("eggplant", "🍆"), ("eight-pointed_star", "✴"),
    ("eight-spoked_asterisk", "✳"), ("eight-thirty", "🕣"), ("eight_o’clock", "🕗"),
    ("eject_button", "⏏"), ("electric_plug", "🔌"), ("elephant", "🐘"), ("eleven-thirty", "🕦"),
    ("eleven_o’clock", "🕚"), ("elf", "🧝"), ("elf_dark_skin_tone", "🧝🏿"),
    ("elf_light_skin_tone", "🧝🏻"), ("elf_medium-dark_skin_tone", "🧝🏾"),
    ("elf_medium-light_skin_tone", "🧝🏼"), ("elf_medium_skin_tone", "🧝🏽"), ("envelope", "✉"),
    ("envelope_with_arrow", "📩"), ("euro_banknote", "💶"), ("evergreen_tree", "🌲"), ("ewe", "🐑"),
    ("exclamation_mark", "❗"), ("exclamation_question_mark", "⁉"), ("exploding_head", "🤯"),
    ("expressionless_face", "😑"), ("eye", "👁"), ("eye_in_speech_bubble", "👁️‍🗨️"), ("eyes", "👀"),
    ("dark_skin_tone", "🏿"), ("dollar", "💵"), ("euro", "💶"), ("diamonds", "♦"), ("date", "📅"),
    ("dagger_knife", "🗡"), ("dancer", "💃"), ("dark_sunglasses", "🕶"), ("dash", "💨"),
    ("derelict_house_building", "🏚"), ("diamond_shape_with_a_dot_inside", "💠"), ("dart", "🎯"),
    ("disappointed_relieved", "😥"), ("disappointed", "😞"), ("do_not_litter", "🚯"), ("dog2", "🐕"),
    ("double_vertical_bar", "⏸"), ("dove_of_peace", "🕊"), ("dromedary_camel", "🐪"),
    ("e__mail", "📧"), ("ear_of_rice", "🌾"), ("earth_americas", "🌎"), ("earth_asia", "🌏"),
    ("earth_africa", "🌍"), ("eight_pointed_black_star", "✴"), ("eight_spoked_asterisk", "✳"),
    ("eject_symbol", "⏏"), ("emoji_modifier_fitzpatrick_type__1__2", "🏻"),
    ("emoji_modifier_fitzpatrick_type__3", "🏼"), ("emoji_modifier_fitzpatrick_type__4", "🏽"),
    ("emoji_modifier_fitzpatrick_type__5", "🏾"), ("emoji_modifier_fitzpatrick_type__6", "🏿"),
    ("end", "🔚"), ("email", "✉"), ("european_castle", "🏰"), ("european_post_office", "🏤"),
    ("expressionless", "😑"), ("eyeglasses", "👓"), ("exclamation", "❗"), ("dolls", "🎎"),
    ("eight", "8️⃣"), ("dancers", "👯")]

end JavaHome.Terminal.Emoji
