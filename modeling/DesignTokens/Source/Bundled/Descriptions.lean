/-!
# What the bundled tokens mean

The meaning of the bundled tokens, for those that have one.
-/

namespace DesignTokens

namespace Bundled

/-- The meaning of a bundled token. -/
def descriptions : List (String × String) :=
  [ ("--ant-color-primary", "Brand color, used for primary actions and key highlights"),
    ("--ant-color-primary-bg", "Light background tint of the brand color"),
    ("--ant-color-primary-bg-hover", "Hover state of the brand background tint"),
    ("--ant-color-primary-border", "Border derived from the brand color"),
    ("--ant-color-primary-border-hover", "Hover state of the brand border"),
    ("--ant-color-primary-hover", "Hover state of the brand color"),
    ("--ant-color-primary-active", "Pressed state of the brand color"),
    ("--ant-color-primary-text", "Text in the brand color"),
    ("--ant-color-primary-text-hover", "Hover state of brand-colored text"),
    ("--ant-color-primary-text-active", "Pressed state of brand-colored text"),
    ("--ant-color-success", "Indicates a successful result or positive status"),
    ("--ant-color-success-bg", "Background of success alerts and tags"),
    ("--ant-color-success-border", "Border of success alerts and tags"),
    ("--ant-color-warning", "Indicates a warning that needs attention"),
    ("--ant-color-warning-bg", "Background of warning alerts and tags"),
    ("--ant-color-warning-border", "Border of warning alerts and tags"),
    ("--ant-color-error", "Indicates an error or a destructive action"),
    ("--ant-color-error-bg", "Background of error alerts and tags"),
    ("--ant-color-error-border", "Border of error alerts and tags"),
    ("--ant-color-info", "Indicates neutral information"),
    ("--ant-color-info-bg", "Background of info alerts"),
    ("--ant-color-info-border", "Border of info alerts"),
    ("--ant-color-link", "Color of hyperlinks"),
    ("--ant-color-link-hover", "Hover state of hyperlinks"),
    ("--ant-color-link-active", "Pressed state of hyperlinks"),
    ("--ant-color-text", "Default text color"),
    ("--ant-color-text-secondary", "Secondary text, such as labels and hints"),
    ("--ant-color-text-tertiary", "Tertiary text, such as descriptions"),
    ("--ant-color-text-quaternary", "Lowest emphasis text"),
    ("--ant-color-text-disabled", "Text of disabled controls"),
    ("--ant-color-text-heading", "Heading text color"),
    ("--ant-color-text-description", "Description text color"),
    ("--ant-color-text-light-solid", "Text on solid brand backgrounds"),
    ("--ant-color-text-placeholder", "Placeholder text of inputs"),
    ("--ant-color-icon", "Default icon color"), ("--ant-color-icon-hover", "Hover state of icons"),
    ("--ant-color-bg-base", "Base background the neutral palette is derived from"),
    ("--ant-color-bg-container", "Background of containers such as cards and inputs"),
    ("--ant-color-bg-elevated", "Background of floating layers such as popovers"),
    ("--ant-color-bg-layout", "Background of the page layout"),
    ("--ant-color-bg-spotlight", "Background of tooltips and other spotlight layers"),
    ("--ant-color-bg-mask", "Background of modal masks"),
    ("--ant-color-bg-container-disabled", "Background of disabled containers"),
    ("--ant-color-bg-text-hover", "Hover background of text buttons"),
    ("--ant-color-bg-text-active", "Pressed background of text buttons"),
    ("--ant-color-border", "Default border color"),
    ("--ant-color-border-secondary", "Subtle border color, such as table dividers"),
    ("--ant-color-fill", "Strongest neutral fill"),
    ("--ant-color-fill-secondary", "Secondary neutral fill"),
    ("--ant-color-fill-tertiary", "Tertiary neutral fill"),
    ("--ant-color-fill-quaternary", "Weakest neutral fill"),
    ("--ant-color-split", "Color of split lines"), ("--ant-color-white", "Pure white"),
    ("--ant-font-family", "Default font stack"), ("--ant-font-family-code", "Font stack for code"),
    ("--ant-font-size", "Default font size"), ("--ant-font-size-sm", "Small font size"),
    ("--ant-font-size-lg", "Large font size"), ("--ant-font-size-xl", "Extra large font size"),
    ("--ant-font-size-heading-1", "Font size of h1"),
    ("--ant-font-size-heading-2", "Font size of h2"),
    ("--ant-font-size-heading-3", "Font size of h3"),
    ("--ant-font-size-heading-4", "Font size of h4"),
    ("--ant-font-size-heading-5", "Font size of h5"),
    ("--ant-font-weight-strong", "Weight of emphasized text"),
    ("--ant-line-height", "Default line height"),
    ("--ant-line-height-sm", "Line height for small text"),
    ("--ant-line-height-lg", "Line height for large text"),
    ("--ant-size-unit", "Base unit the size scale is built from"),
    ("--ant-size-step", "Step between sizes in the size scale"), ("--ant-size", "Default size"),
    ("--ant-control-height", "Height of default buttons and inputs"),
    ("--ant-control-height-sm", "Height of small buttons and inputs"),
    ("--ant-control-height-lg", "Height of large buttons and inputs"),
    ("--ant-control-outline-width", "Width of the focus outline of controls"),
    ("--ant-padding", "Default padding"), ("--ant-margin", "Default margin"),
    ("--ant-border-radius", "Default corner radius"),
    ("--ant-border-radius-sm", "Corner radius of small components"),
    ("--ant-border-radius-lg", "Corner radius of large components"),
    ("--ant-line-width", "Default border width"),
    ("--ant-line-width-bold", "Width of emphasized borders"),
    ("--ant-line-width-focus", "Width of the focus ring"),
    ("--ant-line-type", "Default border style"),
    ("--ant-motion-unit", "Unit the animation durations are built from"),
    ("--ant-motion-duration-fast", "Short animation duration"),
    ("--ant-motion-duration-mid", "Medium animation duration"),
    ("--ant-motion-duration-slow", "Long animation duration"),
    ("--ant-motion-ease-in-out", "Ease-in-out timing function"),
    ("--ant-motion-ease-out", "Ease-out timing function"),
    ("--ant-motion-ease-in", "Ease-in timing function"),
    ("--ant-box-shadow", "Shadow of floating layers"),
    ("--ant-box-shadow-secondary", "Shadow of secondary floating layers"),
    ("--ant-box-shadow-tertiary", "Subtle shadow of cards"),
    ("--ant-z-index-base", "Base stacking level"),
    ("--ant-z-index-popup-base", "Base stacking level of popups"),
    ("--ant-opacity-image", "Opacity of images"),
    ("--ant-opacity-loading", "Opacity of content while loading") ]

end Bundled

end DesignTokens
